import Gatehouse.Provider.EventStream

/-!
# The lines of an event stream

What a decoder gives depends on the bytes it is fed and not on the pieces they come in.

* `completeLines` cuts bytes at every line feed and drops what comes behind the last one, which is
  `unfinished`; `payloads` are the data of the complete lines;
* `payloads_append`: of joined bytes, the second part goes on with the unfinished line of the first;
* `Decoder.payloads_feed` and `Decoder.held_feed`: a decoder that holds an unfinished line and is fed
  a piece gives the payloads of the two joined, and holds what is unfinished of them;
  `Decoder.flatten_feedAll` is the same for pieces one after the other.
-/

namespace Gatehouse.Provider.EventStream

/-! ## 1. Lines -/

/-- The lines of the bytes that are ended by a line feed. -/
def completeLines (bytes : List UInt8) : List (List UInt8) := (bytes.splitOn lineFeed).dropLast

/-- The bytes behind the last line feed. -/
def unfinished (bytes : List UInt8) : List UInt8 := (bytes.splitOn lineFeed).getLastD []

/-- **The data of the complete lines**, in order. -/
def payloads (bytes : List UInt8) : List String := (completeLines bytes).filterMap payload?

section

variable {line : List UInt8} (h : lineFeed ∉ line)

include h

theorem completeLines_of_not_mem : completeLines line = [] := by
  rw [completeLines, List.splitOn_eq_singleton h]
  rfl

theorem unfinished_of_not_mem : unfinished line = line := by
  rw [unfinished, List.splitOn_eq_singleton h]
  rfl

theorem completeLines_line (bytes : List UInt8) :
    completeLines (line ++ lineFeed :: bytes) = line :: completeLines bytes := by
  rw [completeLines, List.splitOn_append_cons_self_of_not_mem h,
    List.dropLast_cons_of_ne_nil (List.splitOn_ne_nil _ _)]
  rfl

theorem unfinished_line (bytes : List UInt8) :
    unfinished (line ++ lineFeed :: bytes) = unfinished bytes := by
  rw [unfinished, List.splitOn_append_cons_self_of_not_mem h, unfinished]
  cases hs : bytes.splitOn lineFeed with
  | nil => exact absurd hs (List.splitOn_ne_nil _ _)
  | cons l ls => rfl

end

/-- Bytes are read line by line: they are one unfinished line, or a line, its line feed and more. -/
@[elab_as_elim]
theorem lineInduction {motive : List UInt8 → Prop}
    (unfinished : ∀ line, lineFeed ∉ line → motive line)
    (line : ∀ line bytes, lineFeed ∉ line → motive bytes → motive (line ++ lineFeed :: bytes))
    (bytes : List UInt8) : motive bytes := by
  induction h : bytes.length using Nat.strongRecOn generalizing bytes with
  | ind n ih =>
    by_cases hmem : lineFeed ∈ bytes
    · obtain ⟨l, rest, rfl, hl⟩ := List.eq_append_cons_of_mem hmem
      refine line l rest hl (ih rest.length ?_ rest rfl)
      rw [← h, List.length_append, List.length_cons]
      omega
    · exact unfinished bytes hmem

theorem lineFeed_not_mem_unfinished (bytes : List UInt8) : lineFeed ∉ unfinished bytes := by
  induction bytes using lineInduction with
  | unfinished line h => rwa [unfinished_of_not_mem h]
  | line line bytes h ih => rwa [unfinished_line h]

/-- The second of two parts goes on with the unfinished line of the first. -/
theorem completeLines_append (a b : List UInt8) :
    completeLines (a ++ b) = completeLines a ++ completeLines (unfinished a ++ b) := by
  induction a using lineInduction with
  | unfinished line h => rw [completeLines_of_not_mem h, unfinished_of_not_mem h, List.nil_append]
  | line line bytes h ih =>
    rw [List.append_assoc, List.cons_append, completeLines_line h, completeLines_line h,
      unfinished_line h, ih, List.cons_append]

theorem payloads_append (a b : List UInt8) :
    payloads (a ++ b) = payloads a ++ payloads (unfinished a ++ b) := by
  rw [payloads, completeLines_append, List.filterMap_append]
  rfl

theorem payloads_of_not_mem {line : List UInt8} (h : lineFeed ∉ line) : payloads line = [] := by
  rw [payloads, completeLines_of_not_mem h]
  rfl

/-! ## 2. Decoders -/

/-- Cutting adds the lines that the bytes complete, the first of which has begun before them. -/
theorem cut_eq (done : List (List UInt8)) {line : List UInt8} (h : lineFeed ∉ line)
    (bytes : List UInt8) : cut done line bytes =
      (done.reverse ++ completeLines (line.reverse ++ bytes),
        (unfinished (line.reverse ++ bytes)).reverse) := by
  induction bytes generalizing done line with
  | nil =>
    have hline : lineFeed ∉ line.reverse := by rwa [List.mem_reverse]
    rw [cut, List.append_nil, completeLines_of_not_mem hline, unfinished_of_not_mem hline,
      List.append_nil, List.reverse_reverse]
  | cons b bytes ih =>
    by_cases hb : b = lineFeed
    · have hline : lineFeed ∉ line.reverse := by rwa [List.mem_reverse]
      rw [cut, if_pos (beq_iff_eq.2 hb), ih _ List.not_mem_nil, hb, completeLines_line hline,
        unfinished_line hline]
      simp
    · have hline : lineFeed ∉ b :: line := List.not_mem_cons_of_ne_of_not_mem (Ne.symm hb) h
      rw [cut, if_neg (by rwa [beq_iff_eq]), ih _ hline]
      simp

namespace Decoder

/-- The bytes of the unfinished line, in order. -/
def held (d : Decoder) : List UInt8 := d.line.reverse

variable {d : Decoder} (h : lineFeed ∉ d.held) (piece : List UInt8)

include h

/-- **A piece completes the payloads of what is held and the piece together.** -/
theorem payloads_feed : (d.feed piece).1 = payloads (d.held ++ piece) := by
  have hline : lineFeed ∉ d.line := by rwa [held, List.mem_reverse] at h
  rw [feed, cut_eq [] hline]
  rfl

theorem held_feed : (d.feed piece).2.held = unfinished (d.held ++ piece) := by
  have hline : lineFeed ∉ d.line := by rwa [held, List.mem_reverse] at h
  rw [feed, cut_eq [] hline]
  exact List.reverse_reverse _

/-- **Pieces give the payloads of what is held and all of them together.** -/
theorem flatten_feedAll (pieces : List (List UInt8)) :
    (d.feedAll pieces).flatten = payloads (d.held ++ pieces.flatten) := by
  induction pieces generalizing d with
  | nil =>
    rw [feedAll, List.flatten_nil, List.flatten_nil, List.append_nil, payloads_of_not_mem h]
  | cons piece pieces ih =>
    have hheld : lineFeed ∉ (d.feed piece).2.held := by
      rw [d.held_feed h]
      exact lineFeed_not_mem_unfinished _
    rw [feedAll, List.flatten_cons, ih hheld, d.held_feed h, d.payloads_feed h, ← payloads_append,
      List.flatten_cons, List.append_assoc]

end Decoder

end Gatehouse.Provider.EventStream

import Mathlib.Data.List.Basic
import Mathlib.Data.List.Induction
import Gatehouse.Proofs.Provider.Lines

/-!
# Lines and their ends

A decoder gives a payload when the line feed of its line arrives. Until then it holds the line.

* `IsData` says what a line of data looks like, and `payload?_eq_some_iff` that those are the lines that
  have a payload;
* `lineAt?` is the line that ends at a position, and `payloadsWithin` are the payloads of the lines that
  end at positions in a row;
* `completeLines_append_eq`: the lines that bytes complete are those that end in them;
* `decoder_answers`: what a decoder gives for pieces, and for each of them, and what it holds.
-/

namespace Gatehouse.Provider.EventStream

open Gatehouse.Text

/-! ## 1. Lines of data -/

/-- What a line of data starts with. -/
def opening : List Char := ['d', 'a', 't', 'a', ':']

/-- The characters are blanks. -/
def Blanks (s : List Char) : Prop := ∀ c ∈ s, isBlank c = true

/-- There is no blank at either end of the text. -/
structure Bare (s : List Char) : Prop where
  head : ∀ c, s.head? = some c → isBlank c = false
  last : ∀ c, s.getLast? = some c → isBlank c = false

/-- **The line is a line of data with this payload**: it reads `data:` and the payload, with blanks
    before, between and behind them if any. The payload takes none of them. -/
def IsData (line : List UInt8) (payload : String) : Prop :=
  ∃ before gap behind : List Char, Blanks before ∧ Blanks gap ∧ Blanks behind ∧
    Bare payload.toList ∧
    Utf8.decodeLossy line = before ++ (opening ++ (gap ++ (payload.toList ++ behind)))

section

variable {s t before behind : List Char}

theorem trimLeftChars_append (h : Blanks before) (ht : ∀ c, t.head? = some c → isBlank c = false) :
    trimLeftChars (before ++ t) = t := by
  rw [trimLeftChars, List.dropWhile_append_of_pos h]
  cases t with
  | nil => rfl
  | cons c t => rw [List.dropWhile_cons_of_neg (by rw [ht c rfl]; exact Bool.false_ne_true)]

theorem exists_trimLeftChars (s : List Char) : ∃ before, Blanks before ∧
    s = before ++ trimLeftChars s ∧ ∀ c, (trimLeftChars s).head? = some c → isBlank c = false := by
  refine ⟨s.takeWhile isBlank, fun c hc => ?_, List.takeWhile_append_dropWhile.symm, ?_⟩
  · exact List.all_eq_true.1 List.all_takeWhile c hc
  · intro c hc
    have hhead := List.head?_dropWhile_not isBlank s
    rw [trimLeftChars] at hc
    rwa [hc] at hhead

theorem trimRightChars_append (h : Blanks behind)
    (ht : ∀ c, t.getLast? = some c → isBlank c = false) : trimRightChars (t ++ behind) = t := by
  have hreversed : trimLeftChars (behind.reverse ++ t.reverse) = t.reverse := by
    refine trimLeftChars_append (fun c hc => h c (List.mem_reverse.1 hc)) fun c hc => ht c ?_
    rwa [List.head?_reverse] at hc
  rw [trimLeftChars] at hreversed
  rw [trimRightChars, List.reverse_append, hreversed, List.reverse_reverse]

theorem exists_trimRightChars (s : List Char) : ∃ behind, Blanks behind ∧
    s = trimRightChars s ++ behind ∧
      ∀ c, (trimRightChars s).getLast? = some c → isBlank c = false := by
  obtain ⟨before, hblanks, hs, hhead⟩ := exists_trimLeftChars s.reverse
  refine ⟨before.reverse, fun c hc => hblanks c (List.mem_reverse.1 hc), ?_, fun c hc => ?_⟩
  · rw [trimRightChars, ← List.reverse_append]
    exact List.reverse_eq_iff.1 hs
  · rw [trimRightChars, List.getLast?_reverse] at hc
    exact hhead c hc

/-- What is trimmed is what stands between the blanks at the ends. -/
theorem trimChars_append (hbefore : Blanks before) (hbehind : Blanks behind) (ht : Bare t) :
    trimChars (before ++ (t ++ behind)) = t := by
  cases t with
  | nil =>
    rw [List.nil_append, trimChars_eq_nil_iff, List.all_eq_true]
    exact List.forall_mem_append.2 ⟨hbefore, hbehind⟩
  | cons c t =>
    have hhead : ∀ d, (c :: t ++ behind).head? = some d → isBlank d = false := ht.head
    rw [trimChars, trimLeftChars_append hbefore hhead, trimRightChars_append hbehind ht.last]

theorem exists_trimChars (s : List Char) : ∃ before behind, Blanks before ∧ Blanks behind ∧
    s = before ++ (trimChars s ++ behind) ∧ Bare (trimChars s) := by
  obtain ⟨before, hbefore, hs, hhead⟩ := exists_trimLeftChars s
  obtain ⟨behind, hbehind, ht, hlast⟩ := exists_trimRightChars (trimLeftChars s)
  refine ⟨before, behind, hbefore, hbehind, ?_, ⟨fun c hc => hhead c ?_, hlast⟩⟩
  · rw [trimChars, ← ht]
    exact hs
  · rw [trimChars] at hc
    rw [ht, List.head?_append, hc]
    rfl

end

theorem behind_eq_some_iff {start s rest : List Char} :
    behind start s = some rest ↔ s = start ++ rest := by
  rw [behind]
  constructor
  · intro h
    split at h
    · rename_i hprefix
      obtain ⟨tail, rfl⟩ := List.isPrefixOf_iff_prefix.1 hprefix
      rw [List.drop_left] at h
      rw [Option.some.inj h]
    · cases h
  · rintro rfl
    rw [if_pos (List.isPrefixOf_iff_prefix.2 (List.prefix_append _ _)), List.drop_left]

/-- **The lines that have a payload are the lines of data.** -/
theorem payload?_eq_some_iff (line : List UInt8) (payload : String) :
    payload? line = some payload ↔ IsData line payload := by
  rw [payload?, Option.map_eq_some_iff]
  constructor
  · rintro ⟨rest, hrest, rfl⟩
    rw [behind_eq_some_iff] at hrest
    obtain ⟨before, behind, hbefore, hbehind, hline, hbare⟩ := exists_trimChars (Utf8.decodeLossy line)
    obtain ⟨gap, hgap, hpayload, hhead⟩ := exists_trimLeftChars rest
    rw [hrest] at hline hbare
    have hends : Bare (trimLeftChars rest) := by
      refine ⟨hhead, fun c hc => hbare.last c ?_⟩
      rw [hpayload, List.getLast?_append, List.getLast?_append, hc]
      rfl
    refine ⟨before, gap, behind, hbefore, hgap, hbehind, ?_, ?_⟩
    · rwa [String.toList_ofList]
    · rw [String.toList_ofList, ← List.append_assoc gap, ← hpayload, ← List.append_assoc opening]
      exact hline
  · rintro ⟨before, gap, behind, hbefore, hgap, hbehind, hbare, hline⟩
    by_cases hempty : payload.toList = []
    · have hopening : Bare opening :=
        ⟨fun c hc => Option.some.inj hc ▸ rfl, fun c hc => Option.some.inj hc ▸ rfl⟩
      rw [hempty, List.nil_append] at hline
      refine ⟨[], ?_, ?_⟩
      · rw [behind_eq_some_iff, hline, List.append_nil]
        exact trimChars_append hbefore (List.forall_mem_append.2 ⟨hgap, hbehind⟩) hopening
      · exact (String.toList_eq_nil_iff.1 hempty).symm
    · have hends : Bare (opening ++ (gap ++ payload.toList)) := by
        refine ⟨fun c hc => ?_, fun c hc => hbare.last c ?_⟩
        · rw [← Option.some.inj hc]
          rfl
        · rwa [← List.append_assoc, List.getLast?_append_of_ne_nil _ hempty] at hc
      refine ⟨gap ++ payload.toList, ?_, ?_⟩
      · rw [behind_eq_some_iff, hline, ← List.append_assoc gap, ← List.append_assoc opening]
        exact trimChars_append hbefore hbehind hends
      · rw [trimLeftChars_append hgap hbare.head, String.ofList_toList]

/-! ## 2. Lines by their ends -/

/-- The line that ends at a position, if there is a line feed: what is behind the last one before. -/
def lineAt? (bytes : List UInt8) (n : Nat) : Option (List UInt8) :=
  if bytes[n]? = some lineFeed then some (unfinished (bytes.take n)) else none

/-- **The payloads of the lines that end** at one of `count` positions from `start` on. -/
def payloadsWithin (bytes : List UInt8) (start count : Nat) : List String :=
  (List.range' start count).filterMap (fun n => (lineAt? bytes n).bind payload?)

theorem lineAt?_append_left {a : List UInt8} {n : Nat} (h : n < a.length) (b : List UInt8) :
    lineAt? (a ++ b) n = lineAt? a n := by
  rw [lineAt?, lineAt?, List.getElem?_append_left h, List.take_append_of_le_length (Nat.le_of_lt h)]

theorem lineAt?_concat (a : List UInt8) (b : UInt8) :
    lineAt? (a ++ [b]) a.length = if b = lineFeed then some (unfinished a) else none := by
  rw [lineAt?, List.getElem?_append_right (Nat.le_refl _), Nat.sub_self, List.take_left]
  simp

/-- The second of two parts goes on with the unfinished line of the first. -/
theorem unfinished_append (a b : List UInt8) :
    unfinished (a ++ b) = unfinished (unfinished a ++ b) := by
  induction a using lineInduction with
  | unfinished line h => rw [unfinished_of_not_mem h]
  | line line bytes h ih =>
    rw [List.append_assoc, List.cons_append, unfinished_line h, unfinished_line h, ih]

theorem completeLines_concat (a : List UInt8) (b : UInt8) : completeLines (a ++ [b]) =
    completeLines a ++ (if b = lineFeed then some (unfinished a) else none).toList := by
  rw [completeLines_append]
  by_cases hb : b = lineFeed
  · have hlast : completeLines [] = [] := completeLines_of_not_mem List.not_mem_nil
    rw [if_pos hb, hb, completeLines_line (lineFeed_not_mem_unfinished a), hlast]
    rfl
  · have hmem : lineFeed ∉ unfinished a ++ [b] := by
      rw [List.mem_append, List.mem_singleton, not_or]
      exact ⟨lineFeed_not_mem_unfinished a, Ne.symm hb⟩
    rw [if_neg hb, completeLines_of_not_mem hmem]
    rfl

/-- **The lines that bytes complete are those that end in them.** -/
theorem completeLines_append_eq (a b : List UInt8) : completeLines (a ++ b) =
    completeLines a ++ (List.range' a.length b.length).filterMap (lineAt? (a ++ b)) := by
  induction b using List.reverseRecOn with
  | nil => simp
  | append_singleton b x ih =>
    have hbefore : (List.range' a.length b.length).filterMap (lineAt? (a ++ b ++ [x])) =
        (List.range' a.length b.length).filterMap (lineAt? (a ++ b)) := by
      refine List.filterMap_congr fun n hn => lineAt?_append_left ?_ _
      rw [List.length_append]
      exact (List.mem_range'_1.1 hn).2
    have hlast : lineAt? (a ++ b ++ [x]) (a.length + b.length) =
        if x = lineFeed then some (unfinished (a ++ b)) else none := by
      rw [← List.length_append, lineAt?_concat]
    rw [← List.append_assoc, completeLines_concat, ih, List.length_append, List.length_singleton,
      List.range'_1_concat, List.filterMap_append, hbefore, List.append_assoc, ← hlast]
    rfl

theorem payloads_append_eq (a b : List UInt8) :
    payloads (a ++ b) = payloads a ++ payloadsWithin (a ++ b) a.length b.length := by
  rw [payloads, completeLines_append_eq, List.filterMap_append, List.filterMap_filterMap]
  rfl

theorem payloadsWithin_append (a b : List UInt8) {start count : Nat} (h : start + count ≤ a.length) :
    payloadsWithin (a ++ b) start count = payloadsWithin a start count := by
  refine List.filterMap_congr fun n hn => ?_
  have hn : n < a.length := by
    have := (List.mem_range'_1.1 hn).2
    omega
  rw [lineAt?_append_left hn]

/-- What is unfinished is what is left behind the last line feed. -/
theorem exists_eq_append_unfinished (bytes : List UInt8) : ∃ seen,
    bytes = seen ++ unfinished bytes ∧ (seen = [] ∨ seen.getLast? = some lineFeed) := by
  induction bytes using lineInduction with
  | unfinished line h => exact ⟨[], by rw [unfinished_of_not_mem h, List.nil_append], .inl rfl⟩
  | line line bytes h ih =>
    obtain ⟨seen, hbytes, hseen⟩ := ih
    refine ⟨line ++ lineFeed :: seen, ?_, .inr ?_⟩
    · rw [unfinished_line h, List.append_assoc, List.cons_append, ← hbytes]
    · rw [List.getLast?_append_of_ne_nil _ (List.cons_ne_nil _ _)]
      rcases hseen with rfl | hseen
      · rfl
      · rw [List.getLast?_cons, hseen]
        rfl

/-! ## 3. Decoders -/

namespace Decoder

/-- The decoder after it has been fed pieces. -/
def fed (d : Decoder) (pieces : List (List UInt8)) : Decoder :=
  pieces.foldl (fun d piece => (d.feed piece).2) d

theorem feedAll_append (d : Decoder) (before behind : List (List UInt8)) :
    d.feedAll (before ++ behind) = d.feedAll before ++ (d.fed before).feedAll behind := by
  induction before generalizing d with
  | nil => rfl
  | cons piece before ih => exact congrArg ((d.feed piece).1 :: ·) (ih (d.feed piece).2)

theorem length_feedAll (d : Decoder) (pieces : List (List UInt8)) :
    (d.feedAll pieces).length = pieces.length := by
  induction pieces generalizing d with
  | nil => rfl
  | cons piece pieces ih => exact congrArg (· + 1) (ih (d.feed piece).2)

/-- **A decoder that was fed pieces holds what is unfinished of them.** -/
theorem held_fed (pieces : List (List UInt8)) :
    (start.fed pieces).held = unfinished pieces.flatten := by
  induction pieces using List.reverseRecOn with
  | nil => exact (unfinished_of_not_mem List.not_mem_nil).symm
  | append_singleton pieces piece ih =>
    have hheld : lineFeed ∉ (start.fed pieces).held := by
      rw [ih]
      exact lineFeed_not_mem_unfinished _
    rw [fed, List.foldl_append, List.foldl_cons, List.foldl_nil, ← fed, held_feed hheld, ih,
      List.flatten_append, List.flatten_singleton]
    exact (unfinished_append _ _).symm

/-- **A piece brings the payloads of the lines that end in it.** -/
theorem payloads_feed_fed (before : List (List UInt8)) (piece : List UInt8) :
    ((start.fed before).feed piece).1 =
      payloadsWithin (before.flatten ++ piece) before.flatten.length piece.length := by
  have hheld : lineFeed ∉ (start.fed before).held := by
    rw [held_fed]
    exact lineFeed_not_mem_unfinished _
  have hpayloads := payloads_append_eq before.flatten piece
  rw [payloads_append] at hpayloads
  rw [payloads_feed hheld, held_fed]
  exact List.append_cancel_left hpayloads

theorem getElem?_feedAll (before : List (List UInt8)) (piece : List UInt8)
    (behind : List (List UInt8)) : (start.feedAll (before ++ piece :: behind))[before.length]? =
      some (payloadsWithin (before ++ piece :: behind).flatten before.flatten.length piece.length) := by
  have hwhole : (before ++ piece :: behind).flatten =
      before.flatten ++ piece ++ behind.flatten := by simp
  have hwithin : before.flatten.length + piece.length ≤ (before.flatten ++ piece).length := by simp
  rw [feedAll_append, List.getElem?_append_right (Nat.le_of_eq (length_feedAll _ _)),
    length_feedAll, Nat.sub_self, hwhole, payloadsWithin_append _ _ hwithin, ← payloads_feed_fed]
  rfl

end Decoder

/-- **A decoder reads bytes as the lines they are, whatever the pieces are.** The lines of data are
    those that look like it. The payloads of all pieces are those of the lines that line feeds end in
    the joined bytes, in order; and each of them is brought by the piece that has the line feed. After
    every piece the decoder holds the bytes behind the last line feed, and no other. -/
theorem decoder_answers :
    (∀ line payload, payload? line = some payload ↔ IsData line payload) ∧
    (∀ pieces, (Decoder.start.feedAll pieces).flatten =
      ((pieces.flatten.splitOn lineFeed).dropLast).filterMap payload?) ∧
    (∀ before piece behind, (Decoder.start.feedAll (before ++ piece :: behind))[before.length]? =
      some (payloadsWithin (before ++ piece :: behind).flatten before.flatten.length
        piece.length)) ∧
    ∀ pieces, lineFeed ∉ (Decoder.start.fed pieces).held ∧ ∃ seen,
      pieces.flatten = seen ++ (Decoder.start.fed pieces).held ∧
        (seen = [] ∨ seen.getLast? = some lineFeed) := by
  refine ⟨payload?_eq_some_iff, fun pieces => ?_, Decoder.getElem?_feedAll, fun pieces => ?_⟩
  · exact Decoder.flatten_feedAll List.not_mem_nil pieces
  · rw [Decoder.held_fed]
    exact ⟨lineFeed_not_mem_unfinished _, exists_eq_append_unfinished _⟩

end Gatehouse.Provider.EventStream

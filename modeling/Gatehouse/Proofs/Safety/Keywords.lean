import Mathlib.Algebra.BigOperators.Group.Finset.Basic
import Gatehouse.Proofs.Safety.Scores

/-!
# Keywords that are added

The keywords of a classifier grow and change their weights as keywords are added. What a text scores
does not depend on how the tables came about, only on the weight that each word was given last.

* `Topic.history` are the weights that the words of a topic were given, oldest first, and
  `Topic.exactScore` adds up the last weight of each word that stands in a text;
* `Settles` says that a table holds each word of a history once, with its last weight:
  `Settles.setWeight` is one more weight, `settles_tableOf` a whole history;
* `Classifier.add_eq`: one more keyword changes the table of its topic only, and `extended_eq`: after any
  number of keywords the tables are those of the histories;
* `blocked_iff_exactScore`: so the classifier blocks by exact scores, as long as the weights of each
  topic have room in 32 bits, and its finding names the first topic that reaches the threshold.
-/

namespace Gatehouse.Safety

open Gatehouse.Text

/-! ## 1. Histories -/

/-- A keyword that is added to a topic, with its weight. -/
structure Keyword where
  topic : String
  word : String
  weight : UInt32

namespace Classifier

/-- The classifier with a keyword added; without such a topic it stays as it is. -/
def add (c : Classifier) (k : Keyword) : Classifier :=
  (c.addKeyword k.topic k.word k.weight).getD c

/-- **The classifier of a level with keywords added**, one after the other. -/
def extended (level : Level) (added : List Keyword) : Classifier := added.foldl add (ofLevel level)

end Classifier

namespace Topic

/-- The words and weights that are added to a topic of the name, in lower case. -/
def additions (name : String) (added : List Keyword) : List (String × UInt32) :=
  (added.filter (fun k => k.topic == name)).map (fun k => (lower k.word, k.weight))

/-- **The weights that words of a topic were given**, oldest first: those it starts with, then those
    that were added. -/
def history (t : Topic) (added : List Keyword) : List (String × UInt32) :=
  t.keywords ++ additions t.name added

/-- The words of a history, each of them once. -/
def words (entries : List (String × UInt32)) : Finset String := (entries.map Prod.fst).toFinset

/-- The weight that a word was given last. -/
def lastWeight (entries : List (String × UInt32)) (word : String) : UInt32 :=
  (entries.reverse.lookup word).getD 0

/-- The last weights of all words, put together. -/
def total (entries : List (String × UInt32)) : Nat :=
  ∑ w ∈ words entries, (lastWeight entries w).toNat

/-- **The exact score of a text**: the last weights of the words that stand in its lower case, put
    together. -/
def exactScore (entries : List (String × UInt32)) (text : String) : Nat :=
  ∑ w ∈ words entries with w.toList <:+: (lower text).toList, (lastWeight entries w).toNat

end Topic

/-! ## 2. Tables -/

section Tables

variable {word : String} {weight : UInt32} {table entries : List (String × UInt32)}

theorem map_fst_setWeight (word : String) (weight : UInt32) (table : List (String × UInt32)) :
    (setWeight word weight table).map Prod.fst =
      if word ∈ table.map Prod.fst then table.map Prod.fst else table.map Prod.fst ++ [word] := by
  induction table with
  | nil => rfl
  | cons k table ih =>
    obtain ⟨w, n⟩ := k
    rw [setWeight]
    by_cases hw : w = word
    · rw [if_pos hw, if_pos (by simp [hw])]
      rfl
    · rw [if_neg hw, List.map_cons, ih, List.map_cons]
      by_cases hmem : word ∈ table.map Prod.fst
      · rw [if_pos hmem, if_pos (List.mem_cons_of_mem w hmem)]
      · rw [if_neg hmem, if_neg (by simp only [List.mem_cons, not_or]; exact ⟨Ne.symm hw, hmem⟩)]
        rfl

theorem mem_map_fst_setWeight {w : String} : w ∈ (setWeight word weight table).map Prod.fst ↔
    w = word ∨ w ∈ table.map Prod.fst := by
  rw [map_fst_setWeight]
  by_cases hmem : word ∈ table.map Prod.fst
  · rw [if_pos hmem]
    constructor
    · exact .inr
    · rintro (rfl | h)
      · exact hmem
      · exact h
  · rw [if_neg hmem, List.mem_append, List.mem_singleton, or_comm]

theorem nodup_setWeight (h : (table.map Prod.fst).Nodup) :
    ((setWeight word weight table).map Prod.fst).Nodup := by
  rw [map_fst_setWeight]
  by_cases hmem : word ∈ table.map Prod.fst
  · rw [if_pos hmem]
    exact h
  · rw [if_neg hmem]
    exact List.nodup_append.2 ⟨h, List.nodup_singleton word, by
      intro a ha b hb
      rw [List.mem_singleton.1 hb]
      rintro rfl
      exact hmem ha⟩

/-- The word has the new weight, all others keep theirs. -/
theorem eq_or_mem_of_mem_setWeight (h : (table.map Prod.fst).Nodup) {k : String × UInt32}
    (hk : k ∈ setWeight word weight table) : k = (word, weight) ∨ k ∈ table ∧ k.1 ≠ word := by
  induction table with
  | nil => exact .inl (List.mem_singleton.1 hk)
  | cons k' table ih =>
    obtain ⟨w, n⟩ := k'
    obtain ⟨hnew, hrest⟩ := List.nodup_cons.1 h
    rw [setWeight] at hk
    by_cases hw : w = word
    · rw [if_pos hw] at hk
      rcases List.mem_cons.1 hk with rfl | hk
      · exact .inl (by rw [hw])
      · have hne : k.1 ≠ word := by
          rintro hkw
          exact hnew (List.mem_map.2 ⟨k, hk, hkw.trans hw.symm⟩)
        exact .inr ⟨List.mem_cons_of_mem _ hk, hne⟩
    · rw [if_neg hw] at hk
      rcases List.mem_cons.1 hk with rfl | hk
      · exact .inr ⟨List.mem_cons_self, hw⟩
      · exact (ih hrest hk).imp_right (And.imp_left (List.mem_cons_of_mem _))

/-- The weight that was given last is the last weight. -/
theorem lastWeight_concat (entries : List (String × UInt32)) (word : String) (weight : UInt32)
    (w : String) : Topic.lastWeight (entries ++ [(word, weight)]) w =
      if w = word then weight else Topic.lastWeight entries w := by
  unfold Topic.lastWeight
  rw [List.reverse_append, List.reverse_singleton, List.singleton_append, List.lookup_cons]
  by_cases hw : w = word
  · rw [if_pos hw, beq_iff_eq.2 hw]
    rfl
  · rw [if_neg hw, beq_false_of_ne hw]

/-- **The table holds each word of the history once, with its last weight.** -/
structure Settles (table entries : List (String × UInt32)) : Prop where
  nodup : (table.map Prod.fst).Nodup
  mem_iff : ∀ w, w ∈ table.map Prod.fst ↔ w ∈ entries.map Prod.fst
  weight_eq : ∀ k ∈ table, Topic.lastWeight entries k.1 = k.2

/-- One more weight is set. -/
theorem Settles.setWeight (h : Settles table entries) (word : String) (weight : UInt32) :
    Settles (setWeight word weight table) (entries ++ [(word, weight)]) where
  nodup := nodup_setWeight h.nodup
  mem_iff := by
    intro w
    rw [mem_map_fst_setWeight, List.map_append, List.mem_append, h.mem_iff, or_comm]
    simp
  weight_eq := by
    intro k hk
    rw [lastWeight_concat]
    rcases eq_or_mem_of_mem_setWeight h.nodup hk with rfl | ⟨hmem, hne⟩
    · rw [if_pos rfl]
    · rw [if_neg hne]
      exact h.weight_eq k hmem

/-- The table that a history leads to. -/
def tableOf (entries : List (String × UInt32)) : List (String × UInt32) :=
  entries.foldl (fun table k => setWeight k.1 k.2 table) []

theorem tableOf_concat (entries : List (String × UInt32)) (k : String × UInt32) :
    tableOf (entries ++ [k]) = setWeight k.1 k.2 (tableOf entries) := by
  unfold tableOf
  rw [List.foldl_append]
  rfl

/-- **The table holds what the history has settled.** -/
theorem settles_tableOf (entries : List (String × UInt32)) : Settles (tableOf entries) entries := by
  induction entries using List.reverseRecOn with
  | nil => exact ⟨List.nodup_nil, fun w => Iff.rfl, fun k hk => absurd hk List.not_mem_nil⟩
  | append_singleton entries k ih =>
    rw [tableOf_concat]
    exact ih.setWeight k.1 k.2

/-- The weights of a table that holds each word once are a sum over its words. -/
theorem Topic.weight_eq_sum {f : String → UInt32} (h : (table.map Prod.fst).Nodup)
    (hf : ∀ k ∈ table, f k.1 = k.2) :
    Topic.weight table = ∑ w ∈ (table.map Prod.fst).toFinset, (f w).toNat := by
  induction table with
  | nil => rfl
  | cons k table ih =>
    obtain ⟨hnew, hrest⟩ := List.nodup_cons.1 h
    obtain ⟨hk, hlater⟩ := List.forall_mem_cons.1 hf
    rw [weight_cons, List.map_cons, List.toFinset_cons,
      Finset.sum_insert (by simpa using hnew), hk, ih hrest hlater]

/-- The weights of some words of a table are the last weights of these words of the history. -/
theorem Settles.weight_filter (h : Settles table entries) (p : String → Bool) :
    Topic.weight (table.filter (fun k => p k.1)) =
      ∑ w ∈ Topic.words entries with p w = true, (Topic.lastWeight entries w).toNat := by
  have hwords : Topic.words entries = (table.map Prod.fst).toFinset := by
    ext w
    rw [Topic.words, List.mem_toFinset, List.mem_toFinset, h.mem_iff]
  have hkept : (table.filter (fun k => p k.1)).map Prod.fst = (table.map Prod.fst).filter p := by
    rw [List.filter_map]
    rfl
  have hnodup : ((table.filter (fun k => p k.1)).map Prod.fst).Nodup := by
    rw [hkept]
    exact h.nodup.filter p
  have hlast : ∀ k ∈ table.filter (fun k => p k.1), Topic.lastWeight entries k.1 = k.2 :=
    fun k hk => h.weight_eq k (List.mem_of_mem_filter hk)
  rw [Topic.weight_eq_sum hnodup hlast, hkept, List.toFinset_filter, hwords]

theorem Settles.weight_eq_total (h : Settles table entries) :
    Topic.weight table = Topic.total entries := by
  have hall := h.weight_filter (fun _ => true)
  rw [List.filter_true] at hall
  rw [hall, Finset.filter_true_of_mem fun _ _ => rfl]
  rfl

/-- **The score is the exact score.** -/
theorem Settles.score_eq (h : Settles table entries) (name text : String) :
    Topic.score ⟨name, table⟩ (lowerChars text.toList) = Topic.exactScore entries text := by
  rw [Topic.score, Topic.found, h.weight_filter (fun w => occursIn w.toList _), Topic.exactScore,
    lower, String.toList_ofList]
  refine Finset.sum_congr (Finset.filter_congr fun w _ => ?_) fun w _ => rfl
  exact occursIn_iff_isInfix

end Tables

/-! ## 3. Adding keywords -/

namespace Topic

/-- The topic after a keyword has been added somewhere: unless it is its own it stays as it is. -/
def add (t : Topic) (k : Keyword) : Topic :=
  if k.topic = t.name then ⟨t.name, setWeight (lower k.word) k.weight t.keywords⟩ else t

theorem add_of_ne {t : Topic} {k : Keyword} (h : t.name ≠ k.topic) : t.add k = t :=
  if_neg (Ne.symm h)

theorem map_add_of_ne {ts : List Topic} {k : Keyword} (h : ∀ t ∈ ts, t.name ≠ k.topic) :
    ts.map (add · k) = ts := by
  have hsame : ts.map (add · k) = ts.map id := List.map_congr_left fun t ht => add_of_ne (h t ht)
  rw [hsame, List.map_id]

end Topic

namespace Classifier

variable {ts : List Topic}

/-- Adding a keyword fails if no topic has the name. -/
theorem setKeyword_eq_none_iff (topic word : String) (weight : UInt32) (ts : List Topic) :
    setKeyword topic word weight ts = none ↔ ∀ t ∈ ts, t.name ≠ topic := by
  induction ts with
  | nil => simp [setKeyword]
  | cons t ts ih =>
    rw [setKeyword, List.forall_mem_cons, ← ih]
    by_cases ht : t.name = topic
    · simp [ht]
    · simp [ht]

/-- **A keyword that is added changes the first topic of the name**, and nothing else. -/
theorem setKeyword_eq_some {topic word : String} {weight : UInt32} {ts ts' : List Topic}
    (h : setKeyword topic word weight ts = some ts') :
    ∃ earlier t later, ts = earlier ++ t :: later ∧ t.name = topic ∧
      (∀ u ∈ earlier, u.name ≠ topic) ∧
      ts' = earlier ++ ⟨t.name, setWeight (lower word) weight t.keywords⟩ :: later := by
  induction ts generalizing ts' with
  | nil => cases h
  | cons t ts ih =>
    rw [setKeyword] at h
    by_cases ht : t.name = topic
    · rw [if_pos ht] at h
      exact ⟨[], t, ts, rfl, ht, by simp, (Option.some.inj h).symm⟩
    · rw [if_neg ht] at h
      obtain ⟨us, hus, rfl⟩ := Option.map_eq_some_iff.1 h
      obtain ⟨earlier, u, later, rfl, hu, hearlier, rfl⟩ := ih hus
      exact ⟨t :: earlier, u, later, rfl, hu, List.forall_mem_cons.2 ⟨ht, hearlier⟩, rfl⟩

/-- That is the topic of the name, if there is one of each name at most. -/
theorem setKeyword_eq_map (h : (ts.map Topic.name).Nodup) {k : Keyword}
    (hk : ∃ t ∈ ts, t.name = k.topic) :
    setKeyword k.topic k.word k.weight ts = some (ts.map (Topic.add · k)) := by
  cases hset : setKeyword k.topic k.word k.weight ts with
  | none =>
    obtain ⟨t, ht, hname⟩ := hk
    exact absurd hname ((setKeyword_eq_none_iff _ _ _ _).1 hset t ht)
  | some ts' =>
    obtain ⟨earlier, t, later, rfl, ht, hearlier, rfl⟩ := setKeyword_eq_some hset
    have hlater : ∀ u ∈ later, u.name ≠ k.topic := by
      rw [List.map_append, List.map_cons] at h
      obtain ⟨hnew, -⟩ := List.nodup_cons.1 (List.nodup_append.1 h).2.1
      intro u hu hname
      exact hnew (List.mem_map.2 ⟨u, hu, hname.trans ht.symm⟩)
    rw [List.map_append, List.map_cons, Topic.map_add_of_ne hearlier, Topic.map_add_of_ne hlater,
      Topic.add, if_pos ht.symm]

/-- **One more keyword changes the table of its topic**, if there is such a topic. -/
theorem add_eq {c : Classifier} (h : (c.topics.map Topic.name).Nodup) (k : Keyword) :
    c.add k = ⟨c.level, c.topics.map (Topic.add · k)⟩ := by
  unfold add addKeyword
  by_cases hk : ∃ t ∈ c.topics, t.name = k.topic
  · rw [setKeyword_eq_map h hk]
    rfl
  · have hnone : ∀ t ∈ c.topics, t.name ≠ k.topic := fun t ht hname => hk ⟨t, ht, hname⟩
    rw [(setKeyword_eq_none_iff _ _ _ _).2 hnone, Topic.map_add_of_ne hnone]
    rfl

/-- The topics that every classifier starts with have different names, and their tables are the ones
    that they lead to. -/
theorem defaults_settled : (Topic.defaults.map Topic.name).Nodup ∧
    ∀ t ∈ Topic.defaults, tableOf t.keywords = t.keywords := by
  decide +kernel

/-- A topic after keywords were added. -/
def extendedTopic (added : List Keyword) (t : Topic) : Topic :=
  ⟨t.name, tableOf (t.history added)⟩

/-- **After any number of keywords the tables are those of the histories.** -/
theorem extended_eq (level : Level) (added : List Keyword) : extended level added =
    ⟨level, Topic.defaults.map (extendedTopic added)⟩ := by
  induction added using List.reverseRecOn with
  | nil =>
    have hstart : Topic.defaults.map (extendedTopic []) = Topic.defaults.map id := by
      refine List.map_congr_left fun t ht => ?_
      rw [extendedTopic, Topic.history, Topic.additions, List.filter_nil, List.map_nil, List.append_nil,
        defaults_settled.2 t ht]
      rfl
    rw [hstart, List.map_id]
    rfl
  | append_singleton added k ih =>
    have hnames : ((Topic.defaults.map (extendedTopic added)).map Topic.name).Nodup := by
      rw [List.map_map]
      exact defaults_settled.1
    have hstep : extended level (added ++ [k]) = (extended level added).add k := by
      unfold extended
      rw [List.foldl_append]
      rfl
    rw [hstep, ih, add_eq hnames, List.map_map]
    congr 1
    refine List.map_congr_left fun t _ => ?_
    rw [Function.comp_apply, Topic.add, extendedTopic, extendedTopic, Topic.history, Topic.history,
      Topic.additions, Topic.additions, List.filter_append]
    by_cases hk : k.topic = t.name
    · rw [if_pos hk, List.filter_cons_of_pos (by simpa using hk), List.filter_nil, List.map_append,
        ← List.append_assoc, List.map_singleton, tableOf_concat]
    · rw [if_neg hk, List.filter_cons_of_neg (by simpa using hk), List.filter_nil, List.append_nil]

/-! ## 4. Verdicts -/

/-- A topic has scored what its history says. -/
theorem score_extendedTopic (t : Topic) (added : List Keyword) (text : String) :
    (extendedTopic added t).score (lowerChars text.toList) =
      Topic.exactScore (t.history added) text :=
  (settles_tableOf _).score_eq t.name text

/-- The first topic whose exact score reaches the threshold. -/
def firstExact (level : Level) (added : List Keyword) (text : String) : Option Topic :=
  Topic.defaults.find? (fun t => level.threshold.toNat ≤ Topic.exactScore (t.history added) text)

/-- **The topic that settles a check is that one.** -/
theorem firstReaching_extended (level : Level) (added : List Keyword) (text : String) :
    (extended level added).firstReaching text =
      (firstExact level added text).map (extendedTopic added) := by
  rw [extended_eq, firstReaching, List.find?_map]
  simp only [Function.comp_def, score_extendedTopic, firstExact]

/-- A text is allowed if there is none. -/
theorem check?_extended_eq_allowed_iff (level : Level) (added : List Keyword) (text : String) :
    (extended level added).check? text = some .allowed ↔
      ∀ t ∈ Topic.defaults, Topic.exactScore (t.history added) text < level.threshold.toNat := by
  rw [check?_eq_allowed_iff, extended_eq, List.forall_mem_map]
  simp only [score_extendedTopic]

/-- The weights that were given last have room, and no check breaks down. -/
theorem sound_extended {level : Level} {added : List Keyword}
    (hroom : ∀ t ∈ Topic.defaults, Topic.total (t.history added) < 2 ^ 32) :
    (extended level added).Sound := by
  rw [extended_eq]
  refine sound_of_weight_lt (List.forall_mem_map.2 fun t ht => ?_)
  exact ((settles_tableOf _).weight_eq_total).trans_lt (hroom t ht)

theorem description_of_toNat (topic : String) {score : UInt32} (threshold : UInt32) {n : Nat}
    (h : score.toNat = n) : description topic score threshold =
      "Content flagged for " ++ topic ++ " (score " ++ toString n ++ ", threshold " ++
        toString threshold.toNat ++ ")" := by
  subst h
  rfl

theorem addKeyword_extended_eq_none_iff (level : Level) (added : List Keyword) (k : Keyword) :
    (extended level added).addKeyword k.topic k.word k.weight = none ↔
      ∀ t ∈ Topic.defaults, t.name ≠ k.topic := by
  rw [extended_eq, addKeyword, Option.map_eq_none_iff, setKeyword_eq_none_iff, List.forall_mem_map]
  rfl

/-- A keyword of an unknown topic is passed over. -/
theorem extended_of_unknown {level : Level} {added : List Keyword} {k : Keyword}
    (h : (extended level added).addKeyword k.topic k.word k.weight = none) (later : List Keyword) :
    extended level (added ++ k :: later) = extended level (added ++ later) := by
  have hsame : (extended level added).add k = extended level added := by
    rw [add, h, Option.getD_none]
  unfold extended at hsame ⊢
  rw [List.foldl_append, List.foldl_cons, hsame, List.foldl_append]

/-- **What a classifier with added keywords blocks.** If the last weights of each topic have room in 32
    bits, no check breaks down. A text is blocked exactly if the exact score of some topic reaches the
    threshold, and the finding names the first such topic, its exact score and the threshold. A keyword
    is refused exactly if there is no such topic, and then no later verdict is different for it. -/
theorem blocked_iff_exactScore (level : Level) (added : List Keyword) (text : String)
    (hroom : ∀ t ∈ Topic.defaults, Topic.total (t.history added) < 2 ^ 32) :
    (∃ v, (extended level added).check? text = some v) ∧
    ((∃ f, (extended level added).check? text = some (.blocked f)) ↔
      ∃ t ∈ Topic.defaults, level.threshold.toNat ≤ Topic.exactScore (t.history added) text) ∧
    (∀ f, (extended level added).check? text = some (.blocked f) →
      ∃ before t after, Topic.defaults = before ++ t :: after ∧
        (∀ u ∈ before, Topic.exactScore (u.history added) text < level.threshold.toNat) ∧
        level.threshold.toNat ≤ Topic.exactScore (t.history added) text ∧
        f.detail = "Content flagged for " ++ t.name ++ " (score " ++
          toString (Topic.exactScore (t.history added) text) ++ ", threshold " ++
          toString level.threshold.toNat ++ ")") ∧
    ∀ k : Keyword,
      ((extended level added).addKeyword k.topic k.word k.weight = none ↔
        ∀ t ∈ Topic.defaults, t.name ≠ k.topic) ∧
      ((extended level added).addKeyword k.topic k.word k.weight = none →
        ∀ later s, (extended level (added ++ k :: later)).check? s =
          (extended level (added ++ later)).check? s) := by
  obtain ⟨v, hv⟩ := Option.isSome_iff_exists.1 (sound_extended hroom text)
  have hlevel : (extended level added).level = level := by rw [extended_eq]
  refine ⟨⟨v, hv⟩, ?_, ?_, fun k => ⟨addKeyword_extended_eq_none_iff level added k, ?_⟩⟩
  · have hallowed : (¬ ∃ f, (extended level added).check? text = some (.blocked f)) ↔
        (extended level added).check? text = some .allowed := by
      rw [hv]
      rcases verdict_cases hv with rfl | ⟨f, rfl, -⟩ <;> simp
    rw [← not_iff_not, hallowed, check?_extended_eq_allowed_iff]
    simp only [not_exists, not_and, Nat.not_le]
  · intro f hf
    obtain ⟨t', n, hfirst, hscore, hblock⟩ := check?_eq_blocked_iff.1 hf
    rw [firstReaching_extended] at hfirst
    obtain ⟨t, hfind, rfl⟩ := Option.map_eq_some_iff.1 hfirst
    obtain ⟨hreached, before, after, hdefaults, hbefore⟩ := List.find?_eq_some_iff_append.1 hfind
    refine ⟨before, t, after, hdefaults, fun u hu => ?_, of_decide_eq_true hreached, ?_⟩
    · simpa using hbefore u hu
    · have hn : n.toNat = Topic.exactScore (t.history added) text := by
        rw [Topic.score?_eq_some_iff.1 hscore, score_extendedTopic]
      rw [← Verdict.blocked.inj hblock, hlevel]
      exact description_of_toNat t.name level.threshold hn
  · intro hnone later s
    rw [extended_of_unknown hnone]

/-- A word of which the case and the weight change, a weight that is taken away, and a keyword of a
    topic that there is not. -/
def reconsidered : List Keyword :=
  [⟨"explicit", "Nsfw", 2⟩, ⟨"violence", "BOMB", 0⟩, ⟨"missing", "text", 9⟩, ⟨"explicit", "NSFW", 6⟩]

theorem blocked_iff_exactScore_reconsidered :
    (∀ t ∈ Topic.defaults, Topic.total (t.history reconsidered) < 2 ^ 32) ∧
      (∃ f, (extended .moderate reconsidered).check? "a bomb in an nsfw text" = some (.blocked f) ∧
        ∃ t ∈ Topic.defaults, 6 ≤ Topic.exactScore (t.history reconsidered) "a bomb in an nsfw text") ∧
      ¬ ∃ f, (extended .standard reconsidered).check? "a bomb in an nsfw text" = some (.blocked f) := by
  have hroom : ∀ t ∈ Topic.defaults, Topic.total (t.history reconsidered) < 2 ^ 32 := by
    decide +kernel
  have hreached : ∃ t ∈ Topic.defaults,
      6 ≤ Topic.exactScore (t.history reconsidered) "a bomb in an nsfw text" := by
    decide +kernel
  have hnot : ¬ ∃ t ∈ Topic.defaults,
      10 ≤ Topic.exactScore (t.history reconsidered) "a bomb in an nsfw text" := by
    decide +kernel
  obtain ⟨-, hmoderate, -, -⟩ :=
    blocked_iff_exactScore .moderate reconsidered "a bomb in an nsfw text" hroom
  obtain ⟨-, hstandard, -, -⟩ :=
    blocked_iff_exactScore .standard reconsidered "a bomb in an nsfw text" hroom
  obtain ⟨f, hf⟩ := hmoderate.2 hreached
  exact ⟨hroom, ⟨f, hf, hreached⟩, fun h => hnot (hstandard.1 h)⟩

end Classifier

end Gatehouse.Safety

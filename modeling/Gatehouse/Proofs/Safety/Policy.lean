import Gatehouse.Proofs.Safety.Pipeline

/-!
# What a pipeline decides

A pipeline of whatever filters, in whatever order, comes to the verdict of the first filter that flags
the text.

* `Pipeline.firstFlag_cases`: no filter flags the text, or there is a first one that does, and its
  verdict is the verdict;
* `Pipeline.firstFlag_withoutData`: on prompts a personal-data filter is as good as none;
* `Filter.category_of_redacted`: only personal data is redacted;
* `pipeline_policy`: how prompts and generated texts are decided, and which verdicts there are.
-/

namespace Gatehouse.Safety

/-! ## 1. Verdicts -/

namespace Verdict

/-- **What a verdict says hangs together**: to pass is to be allowed, and is to have no category. -/
structure Coherent (v : Verdict) : Prop where
  passed_iff_allowed : v.passed = true ↔ v.action = .allowed
  passed_iff_uncategorised : v.passed = true ↔ v.category? = none

/-- **The second verdict is the first one, as a block**: nothing but the action may differ. -/
structure BlockOf (v w : Verdict) : Prop where
  action : w.action = .blocked
  passed : w.passed = v.passed
  category : w.category? = v.category?
  confidence : w.confidence = v.confidence
  detail : w.detail = v.detail

theorem coherent (v : Verdict) : v.Coherent := by
  cases v with
  | allowed => exact ⟨iff_of_true rfl rfl, iff_of_true rfl rfl⟩
  | blocked f => exact ⟨iff_of_false nofun nofun, iff_of_false nofun nofun⟩
  | redacted f => exact ⟨iff_of_false nofun nofun, iff_of_false nofun nofun⟩

theorem blockOf_toBlocked {v : Verdict} (h : v.passed = false) : v.BlockOf v.toBlocked := by
  cases v with
  | allowed => cases h
  | blocked f => exact ⟨rfl, rfl, rfl, rfl, rfl⟩
  | redacted f => exact ⟨rfl, rfl, rfl, rfl, rfl⟩

theorem action_toBlocked_ne_redacted (v : Verdict) : v.toBlocked.action ≠ .redacted := by
  cases v <;> nofun

end Verdict

/-! ## 2. Filters -/

/-- Does the filter look for personal data? -/
def Filter.seeksData : Filter → Bool
  | .personalData => true
  | _ => false

theorem Filter.eq_personalData {f : Filter} (h : f.seeksData = true) : f = .personalData := by
  cases f with
  | firewall => cases h
  | personalData => rfl
  | classifier c sound => cases h

/-- **Only personal data is redacted.** -/
theorem Filter.category_of_redacted {f : Filter} {d : Direction} {text : String}
    (h : (f.check d text).action = .redacted) : (f.check d text).category? = some .pii := by
  cases f with
  | firewall =>
    have hcheck : Filter.check d text .firewall = Firewall.check d text := rfl
    rw [hcheck] at h
    rcases Firewall.check_cases d text with hc | ⟨g, hc⟩ <;> rw [hc] at h <;> cases h
  | personalData =>
    cases d with
    | input => cases h
    | output =>
      unfold Filter.check PersonalData.check at h ⊢
      cases hfound : PersonalData.firstOccurring text PersonalData.classes with
      | none =>
        rw [hfound] at h
        cases h
      | some found => rfl
  | classifier c sound =>
    have hverdict : c.check? text = some (Filter.check d text (.classifier c sound)) :=
      (Option.some_get (sound text)).symm
    rcases Classifier.verdict_cases hverdict with hc | ⟨g, hc, -⟩ <;> rw [hc] at h <;> cases h

/-! ## 3. Pipelines -/

namespace Pipeline

variable (p : Pipeline) (d : Direction) (text : String)

/-- **The filter is the first one that flags the text.** -/
def FirstToFlag (f : Filter) : Prop :=
  ∃ before after, p = before ++ f :: after ∧ (∀ g ∈ before, (g.check d text).passed = true) ∧
    (f.check d text).passed = false

/-- The filters that look for something else than personal data. -/
def withoutData : Pipeline := p.filter (fun f => !f.seeksData)

/-- **The verdict is that of the first filter that flags the text**, if there is one. -/
theorem firstFlag_cases :
    ((∀ f ∈ p, (f.check d text).passed = true) ∧ p.firstFlag d text = .allowed) ∨
      ∃ f, p.FirstToFlag d text f ∧ p.firstFlag d text = f.check d text := by
  induction p with
  | nil => exact .inl ⟨by simp, rfl⟩
  | cons f fs ih =>
    by_cases hf : (f.check d text).passed = true
    · have hrest : firstFlag d text (f :: fs) = firstFlag d text fs := by
        rw [firstFlag, if_pos hf]
      rw [hrest]
      rcases ih with ⟨hall, hallowed⟩ | ⟨g, ⟨before, after, rfl, hbefore, hg⟩, hverdict⟩
      · exact .inl ⟨List.forall_mem_cons.2 ⟨hf, hall⟩, hallowed⟩
      · have hfirst : ∀ g ∈ f :: before, (g.check d text).passed = true :=
          List.forall_mem_cons.2 ⟨hf, hbefore⟩
        exact .inr ⟨g, ⟨f :: before, after, rfl, hfirst, hg⟩, hverdict⟩
    · have hown : firstFlag d text (f :: fs) = f.check d text := by
        rw [firstFlag, if_neg hf]
      rw [Bool.not_eq_true] at hf
      exact .inr ⟨f, ⟨[], fs, rfl, by simp, hf⟩, hown⟩

/-- What does not pass has been flagged by a first filter. -/
theorem exists_firstToFlag (h : (p.firstFlag d text).passed = false) :
    ∃ f, p.FirstToFlag d text f ∧ p.firstFlag d text = f.check d text := by
  rcases p.firstFlag_cases d text with ⟨-, hallowed⟩ | hfirst
  · rw [hallowed] at h
    cases h
  · exact hfirst

/-- **On prompts a personal-data filter is as good as none**: it passes them all. -/
theorem firstFlag_withoutData : p.withoutData.firstFlag .input text = p.firstFlag .input text := by
  induction p with
  | nil => rfl
  | cons f fs ih =>
    unfold withoutData at ih ⊢
    by_cases hf : f.seeksData = true
    · rw [List.filter_cons_of_neg (by simp [hf]), ih, Filter.eq_personalData hf]
      rfl
    · rw [List.filter_cons_of_pos (by simp [hf]), firstFlag, firstFlag, ih]

end Pipeline

/-- **The policy of a pipeline**, whatever its filters are and in whatever order.

    A prompt passes if every filter passes it; otherwise it gets the verdict of the first filter that
    flags it, as a block. Generated text passes if every filter passes it; otherwise it gets the verdict
    of the first filter that flags it, as it is. Filters that look for personal data make no difference
    to prompts, wherever they stand. A verdict that passes is an allowing one without a category, and
    the other way round; a prompt is never to be redacted, and generated text only for personal data. -/
theorem pipeline_policy (p : Pipeline) (text : String) :
    (((p.checkInput text).passed = true ↔ ∀ f ∈ p, (f.check .input text).passed = true) ∧
      ((p.checkInput text).passed = false → ∃ f, p.FirstToFlag .input text f ∧
        (f.check .input text).BlockOf (p.checkInput text))) ∧
    (((p.checkOutput text).passed = true ↔ ∀ f ∈ p, (f.check .output text).passed = true) ∧
      ((p.checkOutput text).passed = false → ∃ f, p.FirstToFlag .output text f ∧
        p.checkOutput text = f.check .output text)) ∧
    (∀ q : Pipeline, q.withoutData = p.withoutData → q.checkInput text = p.checkInput text) ∧
    ((∀ (f : Filter) (d : Direction), (f.check d text).Coherent) ∧
      (p.checkInput text).Coherent ∧ (p.checkOutput text).Coherent ∧
      (p.checkInput text).action ≠ .redacted ∧
      ((p.checkOutput text).action = .redacted → (p.checkOutput text).category? = some .pii)) := by
  refine ⟨⟨?_, ?_⟩, ⟨p.passed_firstFlag_iff .output text, p.exists_firstToFlag .output text⟩, ?_,
    fun f d => Verdict.coherent _, Verdict.coherent _, Verdict.coherent _,
    Verdict.action_toBlocked_ne_redacted _, ?_⟩
  · rw [Pipeline.checkInput, Verdict.passed_toBlocked]
    exact p.passed_firstFlag_iff .input text
  · intro h
    rw [Pipeline.checkInput, Verdict.passed_toBlocked] at h
    obtain ⟨f, hfirst, hverdict⟩ := p.exists_firstToFlag .input text h
    rw [hverdict] at h
    rw [Pipeline.checkInput, hverdict]
    exact ⟨f, hfirst, Verdict.blockOf_toBlocked h⟩
  · intro q hq
    have hflag : q.firstFlag .input text = p.firstFlag .input text := by
      rw [← q.firstFlag_withoutData, hq, p.firstFlag_withoutData]
    rw [Pipeline.checkInput, hflag, Pipeline.checkInput]
  · intro hredacted
    rcases p.firstFlag_cases .output text with ⟨-, hallowed⟩ | ⟨f, -, hverdict⟩
    · rw [Pipeline.checkOutput, hallowed] at hredacted
      cases hredacted
    · rw [Pipeline.checkOutput, hverdict] at hredacted ⊢
      exact Filter.category_of_redacted hredacted

/-- The order decides which of two filters does. -/
example :
    (Pipeline.checkOutput [.firewall, .personalData] "<script>x</script> mail a@b.io").category? =
        some .xss ∧
      (Pipeline.checkOutput [.personalData, .firewall] "<script>x</script> mail a@b.io").category? =
        some .pii := by
  decide +kernel

end Gatehouse.Safety

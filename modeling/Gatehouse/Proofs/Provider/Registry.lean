import Mathlib.Data.List.Induction
import Mathlib.Data.List.Sort
import Gatehouse.Provider.Registry
import Gatehouse.Proofs.Text.ByteOrder

/-!
# The registry over a whole history

A registry starts empty. What it answers after any history of operations is told by the first
registration of each name, and by how often all providers were closed since.

* `Registry.perform` is one operation with its answer, `Registry.answer` the answer to an operation after
  a history;
* `Registry.RegisteredFirst` is the first registration of a name, with what was done since, and
  `Registry.firstOf` the provider it leads to;
* `Registry.Keeps` says that a registry has the names in order and under each of them what `firstOf`
  says: `Registry.keeps_perform` is one operation, `Registry.keeps_after` a history;
* `Registry.answer_spec`: so registering and getting, the two lists and closing answer as they should.

A provider is under the name it was registered with, and nowhere else.
-/

namespace Gatehouse.Provider

open Gatehouse.Text

/-! ## 1. Look-ups -/

section Lookup

variable {α β : Type} [BEq α] [LawfulBEq α]

/-- If no key is there twice, a look-up finds what is in the list. -/
theorem lookup_eq_some_iff_mem {entries : List (α × β)} (h : (entries.map Prod.fst).Nodup) (key : α)
    (value : β) : entries.lookup key = some value ↔ (key, value) ∈ entries := by
  induction entries with
  | nil => simp
  | cons entry entries ih =>
    obtain ⟨k, v⟩ := entry
    obtain ⟨hnew, hrest⟩ := List.nodup_cons.1 h
    rw [List.lookup_cons, List.mem_cons, Prod.mk.injEq]
    by_cases hkey : key = k
    · have habsent : (k, value) ∉ entries := by
        intro hmem
        exact hnew (List.mem_map.2 ⟨(k, value), hmem, rfl⟩)
      rw [beq_iff_eq.2 hkey, hkey]
      simp [habsent, eq_comm]
    · rw [beq_false_of_ne hkey]
      simp [hkey, ih hrest]

theorem lookup_cons_eq_none_iff {entry : α × β} {entries : List (α × β)} {key : α} :
    (entry :: entries).lookup key = none ↔ key ≠ entry.1 ∧ entries.lookup key = none := by
  rw [List.lookup_cons]
  by_cases h : key = entry.1
  · simp [h]
  · simp [h, beq_false_of_ne h]

omit [LawfulBEq α] in
theorem lookup_map (f : β → β) (entries : List (α × β)) (key : α) :
    (entries.map (fun e => (e.1, f e.2))).lookup key = (entries.lookup key).map f := by
  induction entries with
  | nil => rfl
  | cons entry entries ih =>
    rw [List.map_cons, List.lookup_cons, List.lookup_cons]
    cases key == entry.1 with
    | true => rfl
    | false => exact ih

end Lookup

/-! ## 2. Closing -/

theorem models_close (p : Provider) : p.close.2.models = p.models := by
  unfold close models
  cases p.engine <;> rfl

theorem isConfigured_close (p : Provider) : p.close.2.isConfigured = p.isConfigured := by
  unfold close isConfigured
  cases p.engine <;> rfl

/-- A provider is closed once more, whether it reports a failure or not. -/
theorem closings_close (p : Provider) : p.close.2.account.closings = p.account.closings + 1 := by
  unfold close
  cases p.engine <;> rfl

/-- The provider after so many closings. -/
def closedTimes : Nat → Provider → Provider
  | 0, p => p
  | n + 1, p => (closedTimes n p).close.2

/-- What one closing leaves alone, all of them do. -/
theorem apply_closedTimes {γ : Type} {f : Provider → γ} (hf : ∀ p, f p.close.2 = f p) (n : Nat)
    (p : Provider) : f (closedTimes n p) = f p := by
  induction n with
  | zero => rfl
  | succ n ih => exact (hf _).trans ih

namespace Registry

/-! ## 3. Histories -/

/-- What can be done with a registry. -/
inductive Operation where
  | register (name : String) (p : Provider)
  | get (name : String)
  | list
  | configured
  | closeAll

/-- What a registry answers. -/
inductive Outcome where
  | registered
  | refused (e : RegistryError)
  | found (p : Provider)
  | listed (entries : List (String × List String))
  | named (names : List String)
  | closed

/-- Performs an operation: the answer, and the registry after it. -/
def perform (r : Registry) : Operation → Outcome × Registry
  | .register name p =>
    match r.register name p with
    | .ok r' => (.registered, r')
    | .error e => (.refused e, r)
  | .get name =>
    match r.get name with
    | .ok p => (.found p, r)
    | .error e => (.refused e, r)
  | .list => (.listed r.list, r)
  | .configured => (.named r.configured, r)
  | .closeAll => (.closed, r.closeAll)

/-- The registry after a history of operations. -/
def after (history : List Operation) : Registry :=
  history.foldl (fun r op => (r.perform op).2) empty

section Perform

variable {r : Registry} {name : String} {p q : Provider}

theorem perform_register_new (h : r.find? name = none) :
    r.perform (.register name p) = (.registered, ⟨insert name p r.entries⟩) := by
  simp only [perform, register, h]

theorem perform_register_taken (h : r.find? name = some q) :
    r.perform (.register name p) = (.refused (.alreadyRegistered name), r) := by
  simp only [perform, register, h]

theorem perform_get_some (h : r.find? name = some p) : r.perform (.get name) = (.found p, r) := by
  simp only [perform, get, h]

theorem perform_get_none (h : r.find? name = none) :
    r.perform (.get name) = (.refused (.notRegistered name), r) := by
  simp only [perform, get, h]

end Perform

/-- **The answer to an operation after a history.** -/
def answer (history : List Operation) (op : Operation) : Outcome := ((after history).perform op).1

theorem after_concat (history : List Operation) (op : Operation) :
    after (history ++ [op]) = ((after history).perform op).2 := by
  rw [after, List.foldl_append]
  rfl

/-- A provider was registered under the name. Only the first time does that take effect. -/
def Registered (history : List Operation) (name : String) : Prop := ∃ p, .register name p ∈ history

/-- **The first registration of a name**, and what was done since. -/
def RegisteredFirst (history : List Operation) (name : String) (p : Provider)
    (since : List Operation) : Prop :=
  ∃ before, history = before ++ .register name p :: since ∧ ¬ Registered before name

/-- Does the operation close all providers? -/
def Operation.closesAll : Operation → Bool
  | .closeAll => true
  | _ => false

/-- How often all providers are closed. -/
def closings (history : List Operation) : Nat := history.countP Operation.closesAll

/-- The provider that a name was registered with first, closed as often as all were since. -/
def firstOf (name : String) : List Operation → Option Provider
  | [] => none
  | .register n p :: rest =>
    if n = name then some (closedTimes (closings rest) p) else firstOf name rest
  | _ :: rest => firstOf name rest

/-- What an operation makes of the provider under a name. -/
def Operation.effect (name : String) : Operation → Option Provider → Option Provider
  | .register n p, none => if n = name then some p else none
  | .closeAll, found => found.map (fun p => p.close.2)
  | _, found => found

theorem firstOf_concat (name : String) (history : List Operation) (op : Operation) :
    firstOf name (history ++ [op]) = op.effect name (firstOf name history) := by
  induction history with
  | nil => cases op <;> rfl
  | cons earlier history ih =>
    rw [List.cons_append]
    cases earlier with
    | register n p =>
      rw [firstOf, firstOf]
      by_cases hn : n = name
      · rw [if_pos hn, if_pos hn, closings, closings, List.countP_append]
        cases op <;> rfl
      · rw [if_neg hn, if_neg hn, ih]
    | get n => exact ih
    | list => exact ih
    | configured => exact ih
    | closeAll => exact ih

theorem registered_cons {op : Operation} {history : List Operation} {name : String} :
    Registered (op :: history) name ↔ (∃ p, op = .register name p) ∨ Registered history name := by
  simp only [Registered, List.mem_cons, exists_or, eq_comm]

theorem registeredFirst_nil {name : String} {p : Provider} {since : List Operation} :
    ¬ RegisteredFirst [] name p since := by
  rintro ⟨before, hcut, -⟩
  cases before <;> cases hcut

theorem registeredFirst_cons {op : Operation} {history since : List Operation} {name : String}
    {p : Provider} : RegisteredFirst (op :: history) name p since ↔
      op = .register name p ∧ history = since ∨
      (∀ q, op ≠ .register name q) ∧ RegisteredFirst history name p since := by
  constructor
  · rintro ⟨before, hcut, hnew⟩
    cases before with
    | nil =>
      obtain ⟨rfl, rfl⟩ := List.cons.inj hcut
      exact .inl ⟨rfl, rfl⟩
    | cons first before =>
      obtain ⟨rfl, rfl⟩ := List.cons.inj hcut
      rw [registered_cons, not_or, not_exists] at hnew
      exact .inr ⟨hnew.1, before, rfl, hnew.2⟩
  · rintro (⟨rfl, rfl⟩ | ⟨hop, before, rfl, hnew⟩)
    · exact ⟨[], rfl, by simp [Registered]⟩
    · refine ⟨op :: before, rfl, ?_⟩
      rw [registered_cons, not_or, not_exists]
      exact ⟨hop, hnew⟩

/-- A name has a provider if a provider was registered under it first. -/
theorem firstOf_eq_some_iff (name : String) (history : List Operation) (q : Provider) :
    firstOf name history = some q ↔
      ∃ p since, RegisteredFirst history name p since ∧ closedTimes (closings since) p = q := by
  induction history with
  | nil => simp [firstOf, registeredFirst_nil]
  | cons op history ih =>
    simp only [registeredFirst_cons]
    cases op with
    | register n p =>
      rw [firstOf]
      by_cases hn : n = name
      · subst hn
        simp
      · rw [if_neg hn, ih]
        simp [hn]
    | get n => simpa [firstOf] using ih
    | list => simpa [firstOf] using ih
    | configured => simpa [firstOf] using ih
    | closeAll => simpa [firstOf] using ih

theorem firstOf_eq_none_iff (name : String) (history : List Operation) :
    firstOf name history = none ↔ ¬ Registered history name := by
  induction history with
  | nil => simp [firstOf, Registered]
  | cons op history ih =>
    rw [registered_cons, not_or, ← ih]
    cases op with
    | register n p =>
      rw [firstOf]
      by_cases hn : n = name
      · simp [hn]
      · simp [hn]
    | get n => simp [firstOf]
    | list => simp [firstOf]
    | configured => simp [firstOf]
    | closeAll => simp [firstOf]

/-- What closing leaves alone is told by the first registration alone. -/
theorem map_firstOf_eq_some_iff {γ : Type} {f : Provider → γ} (hf : ∀ p, f p.close.2 = f p)
    (name : String) (history : List Operation) (value : γ) :
    (firstOf name history).map f = some value ↔
      ∃ p since, RegisteredFirst history name p since ∧ f p = value := by
  simp only [Option.map_eq_some_iff, firstOf_eq_some_iff]
  constructor
  · rintro ⟨_, ⟨p, since, hfirst, rfl⟩, rfl⟩
    exact ⟨p, since, hfirst, (apply_closedTimes hf _ p).symm⟩
  · rintro ⟨p, since, hfirst, rfl⟩
    exact ⟨_, ⟨p, since, hfirst, rfl⟩, apply_closedTimes hf _ p⟩

/-- **The two histories have the same first registrations**, in whatever order. -/
def SameFirst (history other : List Operation) : Prop :=
  ∀ name p, (∃ since, RegisteredFirst history name p since) ↔
    ∃ since, RegisteredFirst other name p since

theorem SameFirst.map_firstOf {history other : List Operation} (h : SameFirst history other)
    {γ : Type} {f : Provider → γ} (hf : ∀ p, f p.close.2 = f p) (name : String) :
    (firstOf name history).map f = (firstOf name other).map f := by
  refine Option.ext fun value => ?_
  rw [map_firstOf_eq_some_iff hf, map_firstOf_eq_some_iff hf]
  constructor
  · rintro ⟨p, since, hfirst, hvalue⟩
    obtain ⟨since', hfirst'⟩ := (h name p).1 ⟨since, hfirst⟩
    exact ⟨p, since', hfirst', hvalue⟩
  · rintro ⟨p, since, hfirst, hvalue⟩
    obtain ⟨since', hfirst'⟩ := (h name p).2 ⟨since, hfirst⟩
    exact ⟨p, since', hfirst', hvalue⟩

/-! ## 4. Registries -/

section Insert

variable {name : String} {p : Provider} {entries : List (String × Provider)}

theorem mem_insert {entry : String × Provider} :
    entry ∈ insert name p entries ↔ entry = (name, p) ∨ entry ∈ entries := by
  induction entries with
  | nil => simp [insert]
  | cons first rest ih =>
    rw [insert]
    by_cases h : name < first.1
    · rw [if_pos h, List.mem_cons]
    · rw [if_neg h, List.mem_cons, ih, List.mem_cons, or_left_comm]

theorem lookup_insert (hnew : entries.lookup name = none) (other : String) :
    (insert name p entries).lookup other =
      if other = name then some p else entries.lookup other := by
  have hfirst (entries : List (String × Provider)) : ((name, p) :: entries).lookup other =
      if other = name then some p else entries.lookup other := by
    rw [List.lookup_cons]
    by_cases h : other = name
    · rw [beq_iff_eq.2 h, if_pos h]
    · rw [beq_false_of_ne h, if_neg h]
  induction entries with
  | nil => exact hfirst []
  | cons first rest ih =>
    rw [insert]
    by_cases hlt : name < first.1
    · rw [if_pos hlt]
      exact hfirst _
    · rw [if_neg hlt, List.lookup_cons, List.lookup_cons]
      obtain ⟨hne, hnew⟩ := lookup_cons_eq_none_iff.1 hnew
      by_cases hother : other = first.1
      · rw [beq_iff_eq.2 hother, hother, if_neg (Ne.symm hne)]
      · rw [beq_false_of_ne hother]
        exact ih hnew

/-- A name is inserted where it belongs. -/
theorem ordered_insert (hnew : entries.lookup name = none)
    (h : entries.Pairwise (fun e f => e.1 < f.1)) :
    (insert name p entries).Pairwise (fun e f => e.1 < f.1) := by
  induction entries with
  | nil => exact List.pairwise_singleton _ _
  | cons first rest ih =>
    have hbelow := (List.pairwise_cons.1 h).1
    rw [insert]
    by_cases hlt : name < first.1
    · rw [if_pos hlt, List.pairwise_cons]
      refine ⟨?_, h⟩
      intro entry hentry
      rcases List.mem_cons.1 hentry with rfl | hrest
      · exact hlt
      · exact String.lt_trans hlt (hbelow entry hrest)
    · rw [if_neg hlt, List.pairwise_cons]
      obtain ⟨hne, hnew⟩ := lookup_cons_eq_none_iff.1 hnew
      refine ⟨?_, ih hnew (List.pairwise_cons.1 h).2⟩
      intro entry hentry
      rcases mem_insert.1 hentry with rfl | hrest
      · exact Std.lt_of_le_of_ne (String.not_lt.1 hlt) (Ne.symm hne)
      · exact hbelow entry hrest

end Insert

/-- **What one operation does to a registry**: nothing, or one more name, or closing all providers. -/
theorem perform_cases (r : Registry) (op : Operation) :
    ((r.perform op).2 = r ∧ ∀ name, op.effect name (r.find? name) = r.find? name) ∨
    (∃ n p, op = .register n p ∧ r.find? n = none ∧ (r.perform op).2 = ⟨insert n p r.entries⟩) ∨
    (op = .closeAll ∧ (r.perform op).2 = r.closeAll) := by
  cases op with
  | register n p =>
    cases hn : r.find? n with
    | none => exact .inr (.inl ⟨n, p, rfl, hn, congrArg Prod.snd (perform_register_new hn)⟩)
    | some q =>
      refine .inl ⟨congrArg Prod.snd (perform_register_taken hn), ?_⟩
      intro name
      cases hname : r.find? name with
      | some q' => rfl
      | none =>
        have hne : n ≠ name := by
          intro heq
          rw [heq, hname] at hn
          cases hn
        exact if_neg hne
  | get n =>
    refine .inl ⟨?_, fun name => by cases r.find? name <;> rfl⟩
    cases hn : r.find? n with
    | none => exact congrArg Prod.snd (perform_get_none hn)
    | some q => exact congrArg Prod.snd (perform_get_some hn)
  | list => exact .inl ⟨rfl, fun name => by cases r.find? name <;> rfl⟩
  | configured => exact .inl ⟨rfl, fun name => by cases r.find? name <;> rfl⟩
  | closeAll => exact .inr (.inr ⟨rfl, rfl⟩)

/-- **What it does to the provider under a name.** -/
theorem find?_perform (r : Registry) (op : Operation) (name : String) :
    (r.perform op).2.find? name = op.effect name (r.find? name) := by
  rcases perform_cases r op with ⟨hr, heffect⟩ | ⟨n, p, rfl, hn, hr⟩ | ⟨rfl, hr⟩
  · rw [hr, heffect]
  · rw [hr]
    show (insert n p r.entries).lookup name = _
    rw [lookup_insert hn]
    by_cases h : name = n
    · rw [if_pos h, h, hn]
      exact (if_pos rfl).symm
    · rw [if_neg h]
      show r.find? name = _
      cases r.find? name with
      | some q => rfl
      | none => exact (if_neg (Ne.symm h)).symm
  · rw [hr]
    show (r.entries.map (fun e => (e.1, e.2.close.2))).lookup name = _
    rw [lookup_map (fun p : Provider => p.close.2)]
    show (r.find? name).map _ = _
    cases r.find? name <;> rfl

/-- The names are in order, and each of them once. -/
def Ordered (r : Registry) : Prop := r.entries.Pairwise (fun e f => e.1 < f.1)

theorem ordered_perform {r : Registry} (h : r.Ordered) (op : Operation) : (r.perform op).2.Ordered := by
  rcases perform_cases r op with ⟨hr, -⟩ | ⟨n, p, -, hn, hr⟩ | ⟨-, hr⟩
  · rw [hr]
    exact h
  · rw [hr]
    exact ordered_insert hn h
  · rw [hr]
    exact List.pairwise_map.2 h

/-- The registry holds what a history of operations leads to. -/
structure Keeps (r : Registry) (history : List Operation) : Prop where
  ordered : r.Ordered
  found : ∀ name, r.find? name = firstOf name history

/-- **One operation.** -/
theorem keeps_perform {r : Registry} {history : List Operation} (h : r.Keeps history)
    (op : Operation) : (r.perform op).2.Keeps (history ++ [op]) where
  ordered := ordered_perform h.ordered op
  found name := by rw [find?_perform, h.found, firstOf_concat]

/-- **A whole history.** -/
theorem keeps_after (history : List Operation) : (after history).Keeps history := by
  induction history using List.reverseRecOn with
  | nil => exact ⟨List.Pairwise.nil, fun _ => rfl⟩
  | append_singleton history op ih =>
    rw [after_concat]
    exact keeps_perform ih op

/-! ## 5. The lists -/

section Lists

variable {r r' : Registry}

theorem Ordered.nodup (h : r.Ordered) : (r.entries.map Prod.fst).Nodup := by
  refine List.pairwise_map.2 (h.imp ?_)
  intro e f hlt heq
  rw [heq] at hlt
  exact String.lt_irrefl f.1 hlt

theorem find?_eq_some_iff (h : r.Ordered) {name : String} {p : Provider} :
    r.find? name = some p ↔ (name, p) ∈ r.entries :=
  lookup_eq_some_iff_mem h.nodup name p

theorem mem_list_iff (h : r.Ordered) {name : String} {models : List String} :
    (name, models) ∈ r.list ↔ ∃ p, r.find? name = some p ∧ p.models = models := by
  simp only [find?_eq_some_iff h]
  constructor
  · intro hmem
    obtain ⟨⟨n, p⟩, hp, heq⟩ := List.mem_map.1 hmem
    cases heq
    exact ⟨p, hp, rfl⟩
  · rintro ⟨p, hp, rfl⟩
    exact List.mem_map.2 ⟨(name, p), hp, rfl⟩

theorem mem_configured_iff (h : r.Ordered) {name : String} :
    name ∈ r.configured ↔ ∃ p, r.find? name = some p ∧ p.isConfigured = true := by
  simp only [find?_eq_some_iff h]
  constructor
  · intro hmem
    obtain ⟨⟨n, p⟩, hp, rfl⟩ := List.mem_map.1 hmem
    exact ⟨p, (List.mem_filter.1 hp).1, (List.mem_filter.1 hp).2⟩
  · rintro ⟨p, hp, hconfigured⟩
    exact List.mem_map.2 ⟨(name, p), List.mem_filter.2 ⟨hp, hconfigured⟩, rfl⟩

theorem map_fst_list : r.list.map Prod.fst = r.entries.map Prod.fst := by
  rw [list, List.map_map]
  rfl

/-- The names of the providers with credentials stand among all names in the same order. -/
theorem configured_sublist : r.configured.Sublist (r.list.map Prod.fst) := by
  rw [map_fst_list]
  exact List.filter_sublist.map Prod.fst

theorem pairwise_list (h : r.Ordered) : r.list.Pairwise (fun e f => e.1 < f.1) :=
  List.pairwise_map.2 h

theorem pairwise_configured (h : r.Ordered) : r.configured.Pairwise (· < ·) :=
  (List.pairwise_map.2 (pairwise_list h)).sublist configured_sublist

/-- Registries that offer the same models under the same names list the same. -/
theorem list_eq_list (h : r.Ordered) (h' : r'.Ordered)
    (hsame : ∀ name, (r.find? name).map Provider.models = (r'.find? name).map Provider.models) :
    r.list = r'.list := by
  have : Std.Antisymm (fun e f : String × List String => e.1 < f.1) :=
    ⟨fun e f hlt hgt => absurd hgt (String.lt_asymm hlt)⟩
  have : Std.Irrefl (fun e f : String × List String => e.1 < f.1) :=
    ⟨fun e => String.lt_irrefl e.1⟩
  refine (pairwise_list h).eq_of_mem_iff (pairwise_list h') ?_
  rintro ⟨name, models⟩
  simp only [mem_list_iff h, mem_list_iff h', ← Option.map_eq_some_iff, hsame]

theorem configured_eq_configured (h : r.Ordered) (h' : r'.Ordered)
    (hsame : ∀ name, (r.find? name).map Provider.isConfigured =
      (r'.find? name).map Provider.isConfigured) : r.configured = r'.configured := by
  have : Std.Antisymm (fun a b : String => a < b) :=
    ⟨fun a b hlt hgt => absurd hgt (String.lt_asymm hlt)⟩
  have : Std.Irrefl (fun a b : String => a < b) := ⟨String.lt_irrefl⟩
  refine (pairwise_configured h).eq_of_mem_iff (pairwise_configured h') ?_
  intro name
  simp only [mem_configured_iff h, mem_configured_iff h', ← Option.map_eq_some_iff, hsame]

end Lists

/-! ## 6. The answers after a history -/

section Answers

variable {history : List Operation} {name : String} {p : Provider}

theorem find?_after (history : List Operation) (name : String) :
    (after history).find? name = firstOf name history := (keeps_after history).found name

theorem find?_of_not_registered (h : ¬ Registered history name) :
    (after history).find? name = none :=
  (find?_after history name).trans ((firstOf_eq_none_iff name history).2 h)

theorem find?_of_registered (h : Registered history name) :
    ∃ p since, RegisteredFirst history name p since ∧
      (after history).find? name = some (closedTimes (closings since) p) := by
  rw [find?_after]
  cases hfirst : firstOf name history with
  | none => exact absurd h ((firstOf_eq_none_iff name history).1 hfirst)
  | some q =>
    obtain ⟨p, since, hp, rfl⟩ := (firstOf_eq_some_iff name history q).1 hfirst
    exact ⟨p, since, hp, rfl⟩

/-- A refused registration is as good as none. -/
theorem after_refused (h : Registered history name) (later : List Operation) :
    after (history ++ .register name p :: later) = after (history ++ later) := by
  obtain ⟨q, since, -, hfound⟩ := find?_of_registered h
  unfold after
  rw [List.foldl_append, List.foldl_cons, List.foldl_append]
  exact congrArg (List.foldl _ · later) (congrArg Prod.snd (perform_register_taken hfound))

theorem answer_get_eq_found_iff :
    answer history (.get name) = .found p ↔ (after history).find? name = some p := by
  cases hfound : (after history).find? name with
  | none => simp [answer, perform_get_none hfound]
  | some q => simp [answer, perform_get_some hfound]

theorem mem_list_after {models : List String} : (name, models) ∈ (after history).list ↔
    ∃ p since, RegisteredFirst history name p since ∧ p.models = models := by
  rw [mem_list_iff (keeps_after history).ordered, ← map_firstOf_eq_some_iff models_close,
    ← find?_after, Option.map_eq_some_iff]

theorem mem_configured_after : name ∈ (after history).configured ↔
    ∃ p since, RegisteredFirst history name p since ∧ p.isConfigured = true := by
  rw [mem_configured_iff (keeps_after history).ordered,
    ← map_firstOf_eq_some_iff isConfigured_close, ← find?_after, Option.map_eq_some_iff]

/-- **What a registry answers after any history of operations.** -/
theorem answer_spec (history : List Operation) :
    -- a name can be registered once, and trying it again changes no later answer
    (∀ name p, ¬ Registered history name → answer history (.register name p) = .registered) ∧
    (∀ name p, Registered history name →
      answer history (.register name p) = .refused (.alreadyRegistered name) ∧
      ∀ later op, answer (history ++ .register name p :: later) op = answer (history ++ later) op) ∧
    -- under a name is the provider it was first registered with, if there was one
    (∀ name, ¬ Registered history name → answer history (.get name) = .refused (.notRegistered name)) ∧
    (∀ name, Registered history name → ∃ p since, RegisteredFirst history name p since ∧
      answer history (.get name) = .found (closedTimes (closings since) p)) ∧
    -- the lists are in the order of the bytes, whatever order the names were registered in
    (∃ entries names,
      answer history .list = .listed entries ∧ answer history .configured = .named names ∧
      entries.Pairwise (fun e f => Utf8.encode e.1 < Utf8.encode f.1) ∧
      (∀ name models, (name, models) ∈ entries ↔
        ∃ p since, RegisteredFirst history name p since ∧ p.models = models) ∧
      names.Sublist (entries.map Prod.fst) ∧
      (∀ name, name ∈ names ↔
        ∃ p since, RegisteredFirst history name p since ∧ p.isConfigured = true) ∧
      ∀ other, SameFirst history other →
        answer other .list = .listed entries ∧ answer other .configured = .named names) ∧
    -- each provider is closed once, whatever it or another one answers to that
    (∀ name p, answer history (.get name) = .found p →
      answer (history ++ [.closeAll]) (.get name) = .found p.close.2 ∧
      p.close.2.account.closings = p.account.closings + 1) := by
  have hordered := (keeps_after history).ordered
  refine ⟨?register, ?refused, ?missing, ?found, ⟨(after history).list, (after history).configured,
    rfl, rfl, ?sorted, ?listed, configured_sublist, ?configured, ?order⟩, ?closed⟩
  case register =>
    intro name p h
    exact congrArg Prod.fst (perform_register_new (find?_of_not_registered h))
  case refused =>
    intro name p h
    obtain ⟨q, since, -, hfound⟩ := find?_of_registered h
    refine ⟨congrArg Prod.fst (perform_register_taken hfound), ?_⟩
    intro later op
    rw [answer, after_refused h later]
    rfl
  case missing =>
    intro name h
    exact congrArg Prod.fst (perform_get_none (find?_of_not_registered h))
  case found =>
    intro name h
    obtain ⟨p, since, hfirst, hfound⟩ := find?_of_registered h
    exact ⟨p, since, hfirst, answer_get_eq_found_iff.2 hfound⟩
  case sorted => exact (pairwise_list hordered).imp Utf8.encode_lt_encode
  case listed => exact fun name models => mem_list_after
  case configured => exact fun name => mem_configured_after
  case order =>
    intro other h
    have hother := (keeps_after other).ordered
    constructor
    · refine congrArg Outcome.listed (list_eq_list hother hordered ?_)
      intro name
      rw [find?_after, find?_after, h.map_firstOf models_close]
    · refine congrArg Outcome.named (configured_eq_configured hother hordered ?_)
      intro name
      rw [find?_after, find?_after, h.map_firstOf isConfigured_close]
  case closed =>
    intro name p h
    rw [answer_get_eq_found_iff] at h ⊢
    refine ⟨?_, closings_close p⟩
    rw [after_concat, find?_perform, h]
    rfl

/-- A provider of some models, which reports the failure when it is closed. -/
def offering (models : List String) (configured : Bool) (closeFailure : Option Failure) : Provider :=
  ofEngine (.scripted ⟨"mock", models, configured, closeFailure, [], []⟩)

/-- One that fails to close. -/
def zeta : Provider := offering ["z-1"] true (some (.ofMessage "zeta" "close failed"))

def alpha : Provider := offering ["a-2", "a-1"] true none

/-- One without credentials. -/
def aeon : Provider := offering ["e-1"] false none

/-- Three names out of order, one of them twice, and two closings. -/
def busy : List Operation :=
  [.register "zeta" zeta, .closeAll, .register "æon" aeon, .register "zeta" alpha,
    .register "alpha" alpha, .closeAll]

/-- The same names in order. -/
def tidy : List Operation :=
  [.register "alpha" alpha, .register "zeta" zeta, .register "æon" aeon]

theorem sameFirst_busy_tidy : SameFirst busy tidy := by
  intro name p
  simp only [busy, tidy, registeredFirst_cons, registeredFirst_nil, Operation.register.injEq]
  by_cases hzeta : "zeta" = name
  · simp [← hzeta]
  · by_cases halpha : "alpha" = name
    · simp [← halpha]
    · simp [hzeta, halpha]

theorem answer_spec_busy :
    answer busy (.register "alpha" zeta) = .refused (.alreadyRegistered "alpha") ∧
    answer busy (.get "beta") = .refused (.notRegistered "beta") ∧
    answer busy (.get "zeta") = .found (closedTimes 2 zeta) ∧
    answer busy .list = .listed [("alpha", ["a-2", "a-1"]), ("zeta", ["z-1"]), ("æon", ["e-1"])] ∧
    answer tidy .list = answer busy .list ∧
    answer busy .configured = .named ["alpha", "zeta"] ∧
    (closedTimes 2 zeta).close.1 = .error (.ofMessage "zeta" "close failed") ∧
    answer (busy ++ [.closeAll]) (.get "zeta") = .found (closedTimes 3 zeta) ∧
    (closedTimes 3 zeta).account.closings = 3 := by
  obtain ⟨-, hrefused, hmissing, -, ⟨entries, names, hlist, -, -, -, -, -, horder⟩, hclosed⟩ :=
    answer_spec busy
  have halpha : Registered busy "alpha" := ⟨alpha, by simp [busy]⟩
  have hbeta : ¬ Registered busy "beta" := by simp [Registered, busy]
  exact ⟨(hrefused "alpha" zeta halpha).1, hmissing "beta" hbeta, rfl, rfl,
    (horder tidy sameFirst_busy_tidy).1.trans hlist.symm, rfl, rfl,
    (hclosed "zeta" (closedTimes 2 zeta) rfl).1, rfl⟩

end Answers

end Registry

end Gatehouse.Provider

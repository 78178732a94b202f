import Mathlib.Logic.Basic
import Gatehouse.Config.Settings

/-!
# Places that are set and left alone

What a setting in the environment does to the tree of settings, whatever the files and the other
settings are.

* `Carries` compares two trees that differ at one place: there the second one has a value of its own,
  and tables lead to it;
* `Carries.set`: setting a value at a place `Apart` from that one keeps the two trees so;
* `exists_environmentEntries`: with one more variable the environment has one more entry, somewhere
  among the others;
* `carries_environment`: what a variable sets is what the tree carries in the end, if all other variables
  set places apart from it.
-/

namespace Gatehouse.Config

namespace Tree

/-! ## 1. Parts -/

/-- The value under a name in a tree, which may be missing itself. -/
def part (t : Option Tree) (name : String) : Option Tree := t.bind (fun t => t.get? name)

/-- The tree is a table. -/
def IsTable (t : Tree) : Prop := ∃ origin entries, t = .table origin entries

theorem isTable_withEntry (t : Tree) (name : String) (u : Tree) : (t.withEntry name u).IsTable := by
  cases t with
  | scalar origin value => exact ⟨_, _, rfl⟩
  | list origin items => exact ⟨_, _, rfl⟩
  | table origin entries => exact ⟨_, _, rfl⟩

theorem get?_withEntry (t : Tree) (name other : String) (u : Tree) :
    (t.withEntry name u).get? other = if other = name then some u else t.get? other := by
  have hnew : (table none [(name, u)]).get? other = if other = name then some u else none := by
    by_cases h : other = name
    · simp [get?, h]
    · simp [get?, List.lookup_cons, beq_eq_false_iff_ne.2 h, h]
  cases t with
  | scalar origin value => exact hnew
  | list origin items => exact hnew
  | table origin entries =>
    by_cases h : other = name
    · rw [if_pos h, h]
      exact lookup_put_self name u entries
    · rw [if_neg h]
      exact lookup_put_of_ne h u entries

theorem get?_getD_empty (t : Option Tree) (name : String) :
    (t.getD empty).get? name = part t name := by
  cases t <;> rfl

/-- The part under the first name is set, and the others stay. -/
theorem part_set_name (y : Tree) (name : String) (steps : List Step) (t : Option Tree)
    (other : String) : part (some (y.set (.name name :: steps) t)) other =
      if other = name then some (y.set steps (part t name)) else part t other := by
  rw [part, Option.bind_some, set, get?_withEntry, get?_getD_empty, get?_getD_empty]

theorem isTable_set_name (y : Tree) (name : String) (steps : List Step) (t : Option Tree) :
    (y.set (.name name :: steps) t).IsTable := by
  rw [set]
  exact isTable_withEntry _ _ _

/-! ## 2. Two trees that differ at a place -/

/-- **The second tree carries the value at the place**, and is like the first one elsewhere. On the way
    to the place the first one may be anything, and the second one has tables. -/
def Carries (x : Tree) : (place : List String) → Option Tree → Tree → Prop
  | [], _, u => u = x
  | name :: place, t, u => u.IsTable ∧ (∀ other, other ≠ name → u.get? other = part t other) ∧
    ∃ v, u.get? name = some v ∧ Carries x place (part t name) v

/-- **The steps lead past the place**: they part from it at some name. -/
inductive Apart : List Step → (place : List String) → Prop where
  | here {other name : String} (steps : List Step) (place : List String) : other ≠ name →
      Apart (.name other :: steps) (name :: place)
  | inside {steps : List Step} {place : List String} (name : String) : Apart steps place →
      Apart (.name name :: steps) (name :: place)

theorem not_apart_self (place : List String) : ¬ Apart (place.map .name) place := by
  induction place with
  | nil => nofun
  | cons name place ih =>
    intro h
    cases h with
    | here _ _ hne => exact hne rfl
    | inside _ h => exact ih h

theorem carries_set {x : Tree} (hx : ∀ t, laidOver t x = x) (place : List String) (t : Option Tree) :
    Carries x place t (x.set (place.map .name) t) := by
  induction place generalizing t with
  | nil => exact hx t
  | cons name place ih =>
    have hpart := part_set_name x name (place.map .name) t
    refine ⟨isTable_set_name x name (place.map .name) t, fun other hother => ?_, _, ?_, ih _⟩
    · exact (hpart other).trans (if_neg hother)
    · exact (hpart name).trans (if_pos rfl)

/-- **What is set apart from the place is set in both trees alike.** -/
theorem Carries.set {x : Tree} {steps : List Step} {place : List String} (hapart : Apart steps place)
    {t : Option Tree} {u : Tree} (h : Carries x place t u) (y : Tree) :
    Carries x place (some (y.set steps t)) (y.set steps (some u)) := by
  induction hapart generalizing t u with
  | @here other name steps place hne =>
    obtain ⟨-, hothers, v, hv, hcarries⟩ := h
    have hset := part_set_name y other steps t
    have hset' := part_set_name y other steps (some u)
    refine ⟨isTable_set_name y other steps (some u), fun k hk => ?_, v, ?_, ?_⟩
    · refine (hset' k).trans (Eq.trans ?_ (hset k).symm)
      by_cases hkey : k = other
      · have hpart : part (some u) other = part t other := hothers other (hkey ▸ hk)
        rw [if_pos hkey, if_pos hkey, hpart]
      · rw [if_neg hkey, if_neg hkey]
        exact hothers k hk
    · exact ((hset' name).trans (if_neg (Ne.symm hne))).trans hv
    · rwa [hset name, if_neg (Ne.symm hne)]
  | @inside steps place name hapart ih =>
    obtain ⟨-, hothers, v, hv, hcarries⟩ := h
    have hset := part_set_name y name steps t
    have hset' := part_set_name y name steps (some u)
    have hpart : part (some u) name = some v := hv
    refine ⟨isTable_set_name y name steps (some u), fun k hk => ?_, _,
      (hset' name).trans (if_pos rfl), ?_⟩
    · refine (hset' k).trans (Eq.trans ?_ (hset k).symm)
      rw [if_neg hk, if_neg hk]
      exact hothers k hk
    · rw [hset name, if_pos rfl, hpart]
      exact ih hcarries

end Tree

/-! ## 3. Entries of the environment -/

theorem put_append (key : String) (t : Tree) (front rest : List (String × Tree)) :
    put key t (front ++ rest) =
      if key ∈ front.map Prod.fst then put key t front ++ rest else front ++ put key t rest := by
  induction front with
  | nil => rfl
  | cons e front ih =>
    obtain ⟨n, u⟩ := e
    by_cases h : n = key
    · simp [put, h]
    · have hmem : key ∈ ((n, u) :: front).map Prod.fst ↔ key ∈ front.map Prod.fst := by
        simp [Ne.symm h]
      rw [List.cons_append, put, if_neg h, ih, if_congr hmem rfl rfl, put, if_neg h]
      split <;> rfl

theorem mem_put {key : String} {t : Tree} {entries : List (String × Tree)} {e : String × Tree}
    (h : e ∈ put key t entries) : e = (key, t) ∨ e ∈ entries := by
  induction entries with
  | nil => exact .inl (List.mem_singleton.1 h)
  | cons d entries ih =>
    obtain ⟨n, u⟩ := d
    rw [put] at h
    split at h
    · rename_i hn
      rcases List.mem_cons.1 h with rfl | h
      · exact .inl (by rw [hn])
      · exact .inr (List.mem_cons_of_mem _ h)
    · rcases List.mem_cons.1 h with rfl | h
      · exact .inr List.mem_cons_self
      · exact (ih h).imp id (List.mem_cons_of_mem _)

/-- The entries with others put to them. -/
def putAll (entries others : List (String × Tree)) : List (String × Tree) :=
  others.foldl (fun entries e => put e.1 e.2 entries) entries

theorem mem_putAll {entries others : List (String × Tree)} {e : String × Tree}
    (h : e ∈ putAll entries others) : e ∈ entries ∨ e ∈ others := by
  induction others generalizing entries with
  | nil => exact .inl h
  | cons d others ih =>
    rcases ih h with h | h
    · rcases mem_put h with rfl | h
      · exact .inr List.mem_cons_self
      · exact .inl h
    · exact .inr (List.mem_cons_of_mem _ h)

/-- Putting other keys leaves an entry where it is among the others. -/
theorem exists_putAll {key : String} (x : Tree) {others : List (String × Tree)}
    (h : ∀ e ∈ others, e.1 ≠ key) (front rest : List (String × Tree)) : ∃ front' rest',
      putAll (front ++ rest) others = front' ++ rest' ∧
      putAll (front ++ (key, x) :: rest) others = front' ++ (key, x) :: rest' := by
  induction others generalizing front rest with
  | nil => exact ⟨front, rest, rfl, rfl⟩
  | cons e others ih =>
    obtain ⟨hkey, hothers⟩ := List.forall_mem_cons.1 h
    simp only [putAll, List.foldl_cons, put_append]
    by_cases hmem : e.1 ∈ front.map Prod.fst
    · rw [if_pos hmem, if_pos hmem]
      exact ih hothers _ rest
    · rw [if_neg hmem, if_neg hmem, put, if_neg (Ne.symm hkey)]
      exact ih hothers front _

/-- The entry that a name and a value in the environment make, if they are a setting. -/
def entryOf? (e : String × String) : Option (String × Tree) :=
  (Environment.key? e.1).map (fun key => (key, .scalar (some .environment) (.ofVariable e.2)))

theorem environmentEntries_eq (environment : List (String × String)) :
    environmentEntries environment = putAll [] (environment.filterMap entryOf?) := rfl

theorem exists_key_of_mem {environment : List (String × String)} {entry : String × Tree}
    (h : entry ∈ environment.filterMap entryOf?) :
    ∃ e ∈ environment, Environment.key? e.1 = some entry.1 := by
  obtain ⟨e, he, hentry⟩ := List.mem_filterMap.1 h
  obtain ⟨key, hkey, rfl⟩ := Option.map_eq_some_iff.1 hentry
  exact ⟨e, he, hkey⟩

/-- **One more variable is one more entry**, if no other sets the same key. -/
theorem exists_environmentEntries {before behind : List (String × String)} {name key : String}
    (hkey : Environment.key? name = some key)
    (h : ∀ e ∈ before ++ behind, Environment.key? e.1 ≠ some key) (value : String) :
    ∃ front rest, environmentEntries (before ++ behind) = front ++ rest ∧
      environmentEntries (before ++ (name, value) :: behind) =
        front ++ (key, .scalar (some .environment) (.ofVariable value)) :: rest := by
  have hother : ∀ entry ∈ (before ++ behind).filterMap entryOf?, entry.1 ≠ key := by
    rintro entry hentry rfl
    obtain ⟨e, he, hsame⟩ := exists_key_of_mem hentry
    exact h e he hsame
  have hentry : entryOf? (name, value) =
      some (key, .scalar (some .environment) (.ofVariable value)) := by
    rw [entryOf?, hkey, Option.map_some]
  rw [List.filterMap_append] at hother
  obtain ⟨hbefore, hbehind⟩ := List.forall_mem_append.1 hother
  have hnew : key ∉ (putAll [] (before.filterMap entryOf?)).map Prod.fst := by
    intro hmem
    obtain ⟨entry, hfound, hsame⟩ := List.mem_map.1 hmem
    exact hbefore entry ((mem_putAll hfound).resolve_left List.not_mem_nil) hsame
  obtain ⟨front, rest, hwithout, hwith⟩ :=
    exists_putAll (.scalar (some .environment) (.ofVariable value)) hbehind
      (putAll [] (before.filterMap entryOf?)) []
  refine ⟨front, rest, ?_, ?_⟩
  · rw [environmentEntries_eq, List.filterMap_append, putAll, List.foldl_append]
    rwa [List.append_nil] at hwithout
  · rw [environmentEntries_eq, List.filterMap_append, List.filterMap_cons, hentry, putAll,
      List.foldl_append, List.foldl_cons, ← hwith]
    refine congrArg (fun entries => putAll entries (behind.filterMap entryOf?)) ?_
    have hput := put_append key (.scalar (some .environment) (.ofVariable value))
      (putAll [] (before.filterMap entryOf?)) []
    rwa [if_neg hnew, List.append_nil] at hput

/-! ## 4. Layers -/

theorem withLayer_cons (below : Tree) (e : String × Tree) (entries : List (String × Tree)) :
    withLayer below (e :: entries) =
      withLayer (e.2.set (Key.steps e.1) (some below)) entries := rfl

theorem withLayer_append (below : Tree) (front rest : List (String × Tree)) :
    withLayer below (front ++ rest) = withLayer (withLayer below front) rest :=
  List.foldl_append

theorem Tree.Carries.withLayer {x t u : Tree} {place : List String}
    (h : Tree.Carries x place (some t) u) {entries : List (String × Tree)}
    (hapart : ∀ e ∈ entries, Tree.Apart (Key.steps e.1) place) :
    Tree.Carries x place (some (withLayer t entries)) (withLayer u entries) := by
  induction entries generalizing t u with
  | nil => exact h
  | cons e entries ih =>
    obtain ⟨he, hentries⟩ := List.forall_mem_cons.1 hapart
    exact ih (h.set he e.2) hentries

/-- The place that a variable of the environment sets, if it is a setting. -/
def Environment.steps? (name : String) : Option (List Tree.Step) := (key? name).map Key.steps

/-- **What a variable sets is there in the end.** If no other variable sets its place, or a place that
    leads to it or on from it, the tree carries what this one sets, and is else what it would be
    without. -/
theorem carries_environment {before behind : List (String × String)} {name : String}
    {place : List String} (hplace : Environment.steps? name = some (place.map .name))
    (h : ∀ e ∈ before ++ behind, ∀ steps, Environment.steps? e.1 = some steps →
      Tree.Apart steps place) (value : String) (below : Tree) :
    Tree.Carries (.scalar (some .environment) (.ofVariable value)) place
      (some (withLayer below (environmentEntries (before ++ behind))))
      (withLayer below (environmentEntries (before ++ (name, value) :: behind))) := by
  obtain ⟨key, hkey, hsteps⟩ := Option.map_eq_some_iff.1 hplace
  have hapart : ∀ e ∈ before ++ behind, ∀ k, Environment.key? e.1 = some k →
      Tree.Apart (Key.steps k) place := by
    intro e he k hk
    exact h e he _ (by rw [Environment.steps?, hk, Option.map_some])
  -- Who sets the same key sets the same place, and that is not apart from itself.
  have hother : ∀ e ∈ before ++ behind, Environment.key? e.1 ≠ some key := by
    intro e he hsame
    have hself : Tree.Apart (Key.steps key) place := hapart e he key hsame
    rw [hsteps] at hself
    exact Tree.not_apart_self place hself
  obtain ⟨front, rest, hwithout, hwith⟩ := exists_environmentEntries hkey hother value
  have hrest : ∀ entry ∈ rest, Tree.Apart (Key.steps entry.1) place := by
    intro entry hentry
    have hmem : entry ∈ environmentEntries (before ++ behind) := by
      rw [hwithout]
      exact List.mem_append_right front hentry
    obtain ⟨e, he, hk⟩ := exists_key_of_mem ((mem_putAll hmem).resolve_left List.not_mem_nil)
    exact hapart e he entry.1 hk
  have hset := Tree.carries_set (x := .scalar (some .environment) (.ofVariable value))
    (fun _ => rfl) place (some (withLayer below front))
  rw [hwithout, hwith, withLayer_append, withLayer_append, withLayer_cons, hsteps]
  exact hset.withLayer hrest

end Gatehouse.Config

import Gatehouse.Number.Binary

/-!
# Layered settings

Settings come in layers, each laid over the ones before. A `Tree` is what the layers make up, and every
value in it says where it was set.

* Tables are laid over each other name by name; everything else replaces what was there.
* A value can be set at a *place*, a list of names and positions. What is in the way of the place gives
  way, and what is missing on the way is made. A table set at a position of a list replaces the item.
-/

namespace Gatehouse.Config

open Gatehouse.Number

/-- Where a value was set. -/
inductive Origin where
  | file (name : String)
  | environment
  deriving DecidableEq, Repr

/-- The words for an origin. -/
def Origin.text : Origin → String
  | .file name => name
  | .environment => "the environment"

/-- A value without parts. Whole numbers have 64 bits. -/
inductive Scalar where
  | null
  | bool (b : Bool)
  | int (n : Int)
  | real (x : Binary)
  | text (s : String)
  deriving DecidableEq, Repr

/-- A tree of settings. Tables that arose from laying one over another have no origin. -/
inductive Tree where
  | scalar (origin : Option Origin) (value : Scalar)
  | list (origin : Option Origin) (items : List Tree)
  | table (origin : Option Origin) (entries : List (String × Tree))

/-- The entries with one of them set. -/
def put (name : String) (t : Tree) : List (String × Tree) → List (String × Tree)
  | [] => [(name, t)]
  | (n, u) :: rest => if n = name then (n, t) :: rest else (n, u) :: put name t rest

theorem lookup_put_self (name : String) (t : Tree) (entries : List (String × Tree)) :
    (put name t entries).lookup name = some t := by
  induction entries with
  | nil => simp [put]
  | cons e rest ih =>
    obtain ⟨n, u⟩ := e
    by_cases h : n = name
    · simp [put, h]
    · have hne : (name == n) = false := beq_eq_false_iff_ne.2 (Ne.symm h)
      simp [put, h, List.lookup_cons, hne, ih]

theorem lookup_put_of_ne {name other : String} (h : other ≠ name) (t : Tree)
    (entries : List (String × Tree)) : (put name t entries).lookup other = entries.lookup other := by
  induction entries with
  | nil => simp [put, List.lookup_cons, beq_eq_false_iff_ne.2 h]
  | cons e rest ih =>
    obtain ⟨n, u⟩ := e
    by_cases hn : n = name
    · subst hn
      simp [put, List.lookup_cons, beq_eq_false_iff_ne.2 h]
    · simp [put, hn, List.lookup_cons, ih]

namespace Tree

/-- A table without entries. -/
def empty : Tree := .table none []

/-- The value under a name. -/
def get? (t : Tree) (name : String) : Option Tree :=
  match t with
  | .table _ entries => entries.lookup name
  | _ => none

/-- The tree with the value under a name set; what is no table becomes one. -/
def withEntry (t : Tree) (name : String) (u : Tree) : Tree :=
  match t with
  | .table origin entries => .table origin (put name u entries)
  | _ => .table none [(name, u)]

/-- The tree with the value at a position set; what is no list becomes one, and a list that is too
    short is filled up with nulls. A negative position counts from the end. -/
def withItem (t : Tree) (position : Int) (u : Option Tree → Tree) : Tree :=
  let (origin, items) := match t with
    | .list origin items => (origin, items)
    | _ => (none, [])
  let i := if 0 ≤ position then position.toNat else items.length - position.natAbs
  let filled := items ++ List.replicate (i + 1 - items.length) (.scalar none .null)
  .list origin (filled.set i (u filled[i]?))

/-! ## 1. Laying one tree over another -/

mutual

/-- What is there after a tree has been laid over what was there. -/
def laidOver (below : Option Tree) : Tree → Tree
  | .table _ entries => withEntries (below.getD empty) entries
  | t => t

/-- The tree with entries laid over its own, one after the other. -/
def withEntries (below : Tree) : List (String × Tree) → Tree
  | [] => below
  | (name, t) :: rest => withEntries (below.withEntry name (laidOver (below.get? name) t)) rest

end

/-! ## 2. Places -/

/-- One step to a place. -/
inductive Step where
  | name (s : String)
  | position (i : Int)
  deriving DecidableEq, Repr

/-- What is there after a tree has been laid over the place that the steps lead to. -/
def set (t : Tree) : List Step → Option Tree → Tree
  | [], below => laidOver below t
  | [.position i], below => (below.getD empty).withItem i (fun _ => t)
  | .name n :: steps, below =>
    let below := below.getD empty
    below.withEntry n (set t steps (below.get? n))
  | .position i :: steps, below => (below.getD empty).withItem i (set t steps)

end Tree

end Gatehouse.Config

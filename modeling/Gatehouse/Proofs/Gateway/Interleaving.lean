import Gatehouse.Proofs.Gateway.Channel
import Gatehouse.Proofs.Gateway.Stream

/-!
# Streamed requests under any interleaving

`relay` says what comes of a stream if the client reads to the end. Here the parties take their steps in
any order, and the client may leave.

* `Step.conserves`: while the client stays, what it has got and what is still to come make up what
  `relay` says; `Step.after_leaving` says what is left once it has left;
* `Step.bounded` keeps the relay at most two items ahead of the client, `Step.balanced` accounts for the
  stream it holds;
* `exists_run_to_end`: a client that stays comes to the end of a stream that does not stall;
* `reachable_interleaving` draws the conclusions for every reachable state of a streamed request.
-/

namespace Gatehouse.Gateway

open Gatehouse.Generation (Event Request)
open Gatehouse.Provider (Answer Item)

/-! ## 1. Parts of an outcome -/

namespace Relayed

/-- Nothing at all. -/
def nothing : Relayed := ⟨[], [], 0⟩

/-- An event that comes from no item. -/
def just (e : Event) : Relayed := ⟨[e], [], 0⟩

/-- One outcome and then another. -/
def append (a b : Relayed) : Relayed := ⟨a.events ++ b.events, a.log ++ b.log, a.taken + b.taken⟩

@[simp] theorem nothing_append (a : Relayed) : nothing.append a = a := by
  simp [append, nothing]

@[simp] theorem append_nothing (a : Relayed) : a.append nothing = a := by
  simp [append, nothing]

theorem append_assoc (a b c : Relayed) : (a.append b).append c = a.append (b.append c) := by
  simp [append, Nat.add_assoc]

end Relayed

namespace Interleaving

section

variable {s : Screen} {answer : Answer (List Item)} {x y : State}

/-! ## 2. What is still to come -/

/-- What a client that reads to the end gets of an answer. -/
def whole (s : Screen) : Answer (List Item) → Relayed
  | .ok items => relay s items
  | .failed f => .just (.error f.message)
  | .brokeDown _ => .just (.error Refusal.internalMessage)

/-- What comes of a relay that has stopped: the watcher reports if it broke down. -/
def report (brokeDown : Bool) : Relayed :=
  if brokeDown then .just (.error Refusal.internalMessage) else .nothing

/-- What is still to come of the relay. -/
def Phase.rest (s : Screen) (answer : Answer (List Item)) : Phase → Relayed
  | .opening => whole s answer
  | .pulling left => Gateway.relay s left
  | .stalled => .nothing
  | .sending e (some left) =>
    (Relayed.just e).append (if e.isTerminal then .nothing else Gateway.relay s left)
  | .sending e none => .just e
  | .leaving _ brokeDown => report brokeDown
  | .stopped brokeDown => report brokeDown

/-- What is still to come. -/
def State.rest (s : Screen) (answer : Answer (List Item)) (x : State) : Relayed :=
  match x.watcher with
  | .waiting => x.relay.rest s answer
  | .sending => report true
  | .done => .nothing

/-- What has come so far, with what is in the slot. -/
def State.soFar (x : State) : Relayed := ⟨x.received ++ x.slot.toList, x.log, x.taken⟩

theorem rest_answered : (answered answer).rest s answer = whole s answer := by
  cases answer <;> rfl

theorem rest_pulled (answer : Answer (List Item)) (left : List Item) : relay s left =
    Relayed.append ⟨[], (pulled s left).2, (left.take 1).length⟩ ((pulled s left).1.rest s answer) := by
  cases left with
  | nil => rfl
  | cons item left =>
    cases item with
    | stalled => rfl
    | failed f => rfl
    | brokeDown payload => rfl
    | chunk c =>
      cases h : (s.chunk c).1.isTerminal with
      | true => simp [relay, pulled, Phase.rest, Relayed.append, Relayed.just, Relayed.nothing, h]
      | false =>
        simp [relay, pulled, Phase.rest, Relayed.append, Relayed.just, Relayed.after, h,
          Nat.add_comm]

theorem rest_sending (e : Event) (left : Option (List Item)) :
    (Phase.sending e left).rest s answer =
      (Relayed.just e).append ((sent e left).rest s answer) := by
  cases left with
  | none => exact (Relayed.append_nothing _).symm
  | some left => cases h : e.isTerminal <;> simp [Phase.rest, sent, h, report]

/-! ## 3. Nothing is lost while the client is there -/

/-- The watcher does not move before the relay has stopped. -/
def State.Ordered (x : State) : Prop :=
  x.watcher ≠ .waiting → ∃ brokeDown, x.relay = .stopped brokeDown

theorem State.Ordered.waiting (hx : x.Ordered) (h : ∀ brokeDown, x.relay ≠ .stopped brokeDown) :
    x.watcher = .waiting := by
  apply Decidable.byContradiction
  intro hw
  obtain ⟨brokeDown, hstopped⟩ := hx hw
  exact h brokeDown hstopped

theorem Step.ordered (h : Step s answer x y) (hx : x.Ordered) : y.Ordered := by
  -- the relay moves
  have relay {z : State} (hz : z.watcher = x.watcher)
      (hrelay : ∀ brokeDown, x.relay ≠ .stopped brokeDown) : z.Ordered :=
    fun hw => absurd (hz.trans (hx.waiting hrelay)) hw
  cases h with
  | opens hrelay => exact relay rfl (by simp [hrelay])
  | pulls hrelay => exact relay rfl (by simp [hrelay])
  | notices hlistens _ => exact relay rfl (by intro b h; rw [h] at hlistens; cases hlistens)
  | sends hrelay _ _ => exact relay rfl (by simp [hrelay])
  | fails hrelay _ => exact relay rfl (by simp [hrelay])
  | stops hrelay => exact relay rfl (by simp [hrelay])
  | wakes hrelay _ => exact fun _ => ⟨_, hrelay⟩
  | alarms hwatcher _ _ => exact fun _ => hx (by simp [hwatcher])
  | givesUp hwatcher _ => exact fun _ => hx (by simp [hwatcher])
  | receives _ _ => exact hx
  | leaves _ => exact hx

/-- **What has come and what is still to come stay the same together**, as long as the client stays. -/
theorem Step.conserves (h : Step s answer x y) (hx : x.Ordered) (hy : y.isConnected = true) :
    y.soFar.append (y.rest s answer) = x.soFar.append (x.rest s answer) := by
  cases h with
  | opens hrelay =>
    have hwaiting : x.watcher = .waiting := hx.waiting (by simp [hrelay])
    simp only [State.rest, hwaiting, hrelay, rest_answered]
    rfl
  | @pulls left hrelay =>
    have hwaiting : x.watcher = .waiting := hx.waiting (by simp [hrelay])
    simp only [State.rest, hwaiting, hrelay]
    show _ = x.soFar.append (Gateway.relay s left)
    rw [rest_pulled answer left, ← Relayed.append_assoc]
    simp [State.soFar, Relayed.append]
  | notices _ hgone => exact absurd (hgone.symm.trans hy) Bool.false_ne_true
  | @sends e left hrelay _ hslot =>
    have hwaiting : x.watcher = .waiting := hx.waiting (by simp [hrelay])
    simp only [State.rest, hwaiting, hrelay]
    rw [rest_sending, ← Relayed.append_assoc]
    simp [State.soFar, Relayed.append, Relayed.just, hslot]
  | fails _ hgone => exact absurd (hgone.symm.trans hy) Bool.false_ne_true
  | stops hrelay =>
    have hwaiting : x.watcher = .waiting := hx.waiting (by simp [hrelay])
    simp only [State.rest, hwaiting, hrelay]
    rfl
  | @wakes brokeDown hrelay hwaiting =>
    simp only [State.rest, hwaiting, hrelay]
    cases brokeDown <;> rfl
  | alarms hwatcher _ hslot =>
    simp [State.rest, hwatcher, report, State.soFar, Relayed.append, Relayed.just, Relayed.nothing,
      hslot]
  | givesUp _ hgone => exact absurd (hgone.symm.trans hy) Bool.false_ne_true
  | receives _ hslot => simp [State.soFar, State.rest, hslot]
  | leaves _ => cases hy

/-! ## 4. The client leaves -/

/-- How many items the relay may still take without putting an event into the slot. -/
def Phase.mayPull : Phase → Nat
  | .opening | .pulling _ => 1
  | _ => 0

theorem Phase.mayPull_le (p : Phase) : p.mayPull ≤ 1 := by
  cases p <;> simp [mayPull]

theorem mayPull_pulled (left : List Item) : (pulled s left).1.mayPull = 0 := by
  cases left with
  | nil => rfl
  | cons item left => cases item <;> rfl

/-- **Once the client has left it gets nothing more, and the relay takes at most what it may.** -/
theorem Step.after_leaving (h : Step s answer x y) (hx : x.isConnected = false) :
    y.isConnected = false ∧ y.received = x.received ∧
      y.taken + y.relay.mayPull ≤ x.taken + x.relay.mayPull := by
  have staying {p : Prop} (h : x.isConnected = true) : p :=
    absurd (hx.symm.trans h) Bool.false_ne_true
  cases h with
  | opens hrelay =>
    refine ⟨hx, rfl, ?_⟩
    rw [hrelay]
    exact Nat.add_le_add_left (Phase.mayPull_le _) _
  | @pulls left hrelay =>
    refine ⟨hx, rfl, ?_⟩
    rw [hrelay]
    simp only [mayPull_pulled]
    exact Nat.add_le_add_left (List.length_take_le 1 left) _
  | notices _ _ => exact ⟨hx, rfl, Nat.add_le_add_left (Nat.zero_le _) _⟩
  | sends _ hconnected _ => exact staying hconnected
  | fails _ _ => exact ⟨hx, rfl, Nat.add_le_add_left (Nat.zero_le _) _⟩
  | stops _ => exact ⟨hx, rfl, Nat.add_le_add_left (Nat.zero_le _) _⟩
  | wakes _ _ => exact ⟨hx, rfl, Nat.le_refl _⟩
  | alarms _ hconnected _ => exact staying hconnected
  | givesUp _ _ => exact ⟨hx, rfl, Nat.le_refl _⟩
  | receives hconnected _ => exact staying hconnected
  | leaves hconnected => exact staying hconnected

/-- The step with which the client leaves brings it nothing either. -/
theorem Step.received_of_gone (h : Step s answer x y) (hy : y.isConnected = false) :
    y.received = x.received := by
  cases h with
  | receives hconnected _ => exact absurd (hy.symm.trans hconnected) Bool.false_ne_true
  | _ => rfl

/-! ## 5. The relay, the client and the stream -/

/-- How many events were put into the slot and not received: those that are in it or, if the client has
    left, the one that may have been lost with it. -/
def State.ahead (x : State) : Nat := if x.isConnected then x.slot.toList.length else 1

theorem State.ahead_le (x : State) : x.ahead ≤ 1 := by
  unfold ahead
  cases x.isConnected <;> cases x.slot <;> simp

/-- **How far the relay is ahead of the client.** Each item that was taken has led to an event that was
    received, but for one whose event was put into the slot and one that the relay holds or may take. -/
def State.Bounded (x : State) : Prop :=
  x.taken + x.relay.mayPull ≤ x.received.length + x.ahead + 1

theorem Step.bounded (h : Step s answer x y) (hx : x.Bounded) : y.Bounded := by
  unfold State.Bounded at *
  cases h with
  | opens hrelay =>
    have hmay := (answered answer).mayPull_le
    rw [hrelay] at hx
    exact Nat.le_trans (Nat.add_le_add_left hmay _) hx
  | @pulls left hrelay =>
    have htaken : (left.take 1).length ≤ 1 := List.length_take_le 1 left
    rw [hrelay] at hx
    simp only [mayPull_pulled]
    exact Nat.le_trans (Nat.add_le_add_left htaken _) hx
  | notices _ _ => exact Nat.le_trans (Nat.le_add_right _ _) hx
  | @sends e left _ hconnected hslot =>
    have hmay := (sent e left).mayPull_le
    simp only [State.ahead, hconnected, hslot, if_true, Option.toList_none, Option.toList_some,
      List.length_nil, List.length_singleton] at hx ⊢
    omega
  | fails _ _ => exact Nat.le_trans (Nat.le_add_right _ _) hx
  | stops _ => exact Nat.le_trans (Nat.le_add_right _ _) hx
  | wakes _ _ => exact hx
  | alarms _ hconnected hslot =>
    simp only [State.ahead, hconnected, hslot, if_true, Option.toList_none, Option.toList_some,
      List.length_nil, List.length_singleton] at hx ⊢
    omega
  | givesUp _ _ => exact hx
  | receives hconnected hslot =>
    simp only [State.ahead, hconnected, hslot, if_true, Option.toList_none, Option.toList_some,
      List.length_nil, List.length_singleton, List.length_append] at hx ⊢
    omega
  | leaves _ =>
    have hahead := x.ahead_le
    show x.taken + x.relay.mayPull ≤ x.received.length + 1 + 1
    omega

/-- Every stream that the relay was given is released or held by it. -/
def State.Balanced (x : State) : Prop := x.opened = x.released + x.relay.held

theorem held_pulled (left : List Item) : (pulled s left).1.held = 1 := by
  cases left with
  | nil => rfl
  | cons item left => cases item <;> rfl

theorem held_sent (e : Event) (left : Option (List Item)) :
    (sent e left).held = (Phase.sending e left).held := by
  cases left with
  | none => rfl
  | some left => cases h : e.isTerminal <;> simp [sent, Phase.held, h]

theorem held_of_listens {p : Phase} (h : p.listens = true) : p.held = 1 := by
  cases p with
  | pulling left => rfl
  | stalled => rfl
  | _ => cases h

theorem Step.balanced (h : Step s answer x y) (hx : x.Balanced) : y.Balanced := by
  unfold State.Balanced at *
  cases h with
  | opens hrelay =>
    rw [hrelay] at hx
    exact congrArg (· + (answered answer).held) hx
  | pulls hrelay =>
    rw [hrelay] at hx
    simp only [held_pulled]
    exact hx
  | notices hlistens _ =>
    rw [held_of_listens hlistens] at hx
    exact hx
  | sends hrelay _ _ =>
    rw [hrelay] at hx
    simp only [held_sent]
    exact hx
  | @fails e left hrelay _ =>
    rw [hrelay] at hx
    cases left <;> exact hx
  | @stops holding brokeDown hrelay =>
    rw [hrelay] at hx
    cases holding <;> exact hx
  | wakes _ _ => exact hx
  | alarms _ _ _ => exact hx
  | givesUp _ _ => exact hx
  | receives _ _ => exact hx
  | leaves _ => exact hx

/-! ## 6. Reachable states -/

/-- What holds at the start and is kept by every step holds in every reachable state. -/
theorem invariant_of_reachable (inv : State → Prop) (hstart : inv start)
    (hstep : ∀ x y, Step s answer x y → inv x → inv y) (h : Reachable s answer x) : inv x := by
  induction h with
  | refl => exact hstart
  | tail _ h ih => exact hstep _ _ h ih

/-- **What the client gets**, up to now and, if it stays, from now on. -/
structure Faithful (s : Screen) (answer : Answer (List Item)) (x : State) : Prop where
  ordered : x.Ordered
  all : x.isConnected = true → x.soFar.append (x.rest s answer) = whole s answer
  begins : x.received <+: (whole s answer).events

/-- What has come so far is what the client begins with. -/
theorem begins_of_all (h : x.soFar.append (x.rest s answer) = whole s answer) :
    x.received <+: (whole s answer).events := by
  rw [← h]
  simp [State.soFar, Relayed.append, List.append_assoc]

theorem Step.faithful (h : Step s answer x y) (hx : Faithful s answer x) : Faithful s answer y := by
  have hall (hy : y.isConnected = true) : y.soFar.append (y.rest s answer) = whole s answer := by
    cases hconnected : x.isConnected with
    | true => rw [h.conserves hx.ordered hy, hx.all hconnected]
    | false =>
      have hgone := (h.after_leaving hconnected).1
      exact absurd (hgone.symm.trans hy) Bool.false_ne_true
  refine ⟨h.ordered hx.ordered, hall, ?_⟩
  cases hy : y.isConnected with
  | true => exact begins_of_all (hall hy)
  | false =>
    rw [h.received_of_gone hy]
    exact hx.begins

theorem faithful_of_reachable (h : Reachable s answer x) : Faithful s answer x :=
  invariant_of_reachable (Faithful s answer)
    ⟨fun hw => absurd rfl hw, fun _ => Relayed.nothing_append _, List.nil_prefix⟩
    (fun _ _ hstep => hstep.faithful) h

theorem bounded_of_reachable (h : Reachable s answer x) : x.Bounded :=
  invariant_of_reachable State.Bounded (Nat.le_refl 1) (fun _ _ hstep => hstep.bounded) h

theorem balanced_of_reachable (h : Reachable s answer x) : x.Balanced :=
  invariant_of_reachable State.Balanced rfl (fun _ _ hstep => hstep.balanced) h

/-- **When all is over and the client is there, it has got the whole**, and so it is with the safety log
    and the items taken. -/
theorem Faithful.whole_eq (hx : Faithful s answer x) (hconnected : x.isConnected = true)
    (hover : x.IsOver) : whole s answer = ⟨x.received, x.log, x.taken⟩ := by
  rw [← hx.all hconnected]
  simp [State.soFar, State.rest, hover.watcher, hover.slot]

/-- What a run brings after the client has left. -/
theorem after_leaving_of_run (h : Run s answer x y) (hx : x.isConnected = false) :
    y.isConnected = false ∧ y.received = x.received ∧
      y.taken + y.relay.mayPull ≤ x.taken + x.relay.mayPull := by
  induction h with
  | refl => exact ⟨hx, rfl, Nat.le_refl _⟩
  | tail _ hstep ih =>
    obtain ⟨hgone, hreceived, htaken⟩ := ih
    obtain ⟨hgone', hreceived', htaken'⟩ := hstep.after_leaving hgone
    exact ⟨hgone', hreceived'.trans hreceived, Nat.le_trans htaken' htaken⟩

/-! ## 7. The end is reached -/

/-- How many steps the relay can take at most, each event that it sends counted twice: the client has to
    receive it. -/
def Phase.work (answer : Answer (List Item)) : Phase → Nat
  | .opening =>
    match answer with
    | .ok items => 3 * items.length + 5
    | _ => 4
  | .pulling left => 3 * left.length + 4
  | .stalled => 2
  | .sending e (some left) => if e.isTerminal then 3 else 3 * left.length + 6
  | .sending _ none => 3
  | .leaving .. => 1
  | .stopped _ => 0

def Watcher.work : Watcher → Nat
  | .waiting => 3
  | .sending => 2
  | .done => 0

/-- How many steps there can be at most while the client stays. -/
def State.work (answer : Answer (List Item)) (x : State) : Nat :=
  x.relay.work answer + x.watcher.work + x.slot.toList.length

theorem work_answered : (answered answer).work answer < Phase.opening.work answer := by
  cases answer <;> simp [answered, Phase.work]

theorem work_pulled (left : List Item) :
    (pulled s left).1.work answer < (Phase.pulling left).work answer := by
  cases left with
  | nil => simp [pulled, Phase.work, Event.isTerminal]
  | cons item left =>
    cases item with
    | chunk c =>
      simp only [pulled, Phase.work, List.length_cons]
      split <;> omega
    | failed f => simp [pulled, Phase.work, Event.isTerminal]
    | brokeDown payload => simp [pulled, Phase.work]
    | stalled => simp [pulled, Phase.work]

theorem work_sent (e : Event) (left : Option (List Item)) :
    (sent e left).work answer + 1 < (Phase.sending e left).work answer := by
  cases left with
  | none => simp [sent, Phase.work]
  | some left => cases h : e.isTerminal <;> simp [sent, Phase.work, h]

/-- **A step after which the client is there leaves less to do**, so no run in which it stays goes on
    for ever. -/
theorem Step.work_lt (h : Step s answer x y) (hy : y.isConnected = true) :
    y.work answer < x.work answer := by
  unfold State.work
  cases h with
  | opens hrelay =>
    have hwork : (answered answer).work answer < Phase.opening.work answer := work_answered
    simp only [hrelay]
    omega
  | @pulls left hrelay =>
    have hwork : (pulled s left).1.work answer < _ := work_pulled left
    simp only [hrelay]
    omega
  | notices _ hgone => exact absurd (hgone.symm.trans hy) Bool.false_ne_true
  | @sends e left hrelay _ hslot =>
    have hwork : (sent e left).work answer + 1 < _ := work_sent e left
    simp only [hrelay, hslot, Option.toList_none, Option.toList_some, List.length_nil,
      List.length_singleton]
    omega
  | fails _ hgone => exact absurd (hgone.symm.trans hy) Bool.false_ne_true
  | stops hrelay =>
    simp only [hrelay, Phase.work]
    omega
  | @wakes brokeDown _ hwaiting =>
    simp only [hwaiting]
    cases brokeDown <;> simp [Watcher.work]
  | alarms hwatcher _ hslot => simp [hwatcher, hslot, Watcher.work]
  | givesUp _ hgone => exact absurd (hgone.symm.trans hy) Bool.false_ne_true
  | receives _ hslot => simp [hslot]
  | leaves _ => cases hy

/-- **As long as it is not over, there is a step for one of the parties**, and the client need not
    leave, unless the relay waits for an item that never comes. -/
theorem exists_step (s : Screen) (answer : Answer (List Item)) (hconnected : x.isConnected = true)
    (hstalled : x.relay ≠ .stalled) (hover : ¬ x.IsOver) :
    ∃ y, Step s answer x y ∧ y.isConnected = true := by
  cases hslot : x.slot with
  | some e => exact ⟨_, .receives hconnected hslot, hconnected⟩
  | none =>
    cases hrelay : x.relay with
    | opening => exact ⟨_, .opens hrelay, hconnected⟩
    | pulling left => exact ⟨_, .pulls hrelay, hconnected⟩
    | stalled => exact absurd hrelay hstalled
    | sending e left => exact ⟨_, .sends hrelay hconnected hslot, hconnected⟩
    | leaving holding brokeDown => exact ⟨_, .stops hrelay, hconnected⟩
    | stopped brokeDown =>
      cases hwatcher : x.watcher with
      | waiting => exact ⟨_, .wakes hrelay hwatcher, hconnected⟩
      | sending => exact ⟨_, .alarms hwatcher hconnected hslot, hconnected⟩
      | done => exact absurd ⟨⟨brokeDown, hrelay⟩, hwatcher, hslot⟩ hover

/-- The relay will not have to wait for an item that never comes. -/
def Phase.Settled (answer : Answer (List Item)) : Phase → Prop
  | .opening => Settles answer
  | .pulling left => .stalled ∉ left
  | .sending _ (some left) => .stalled ∉ left
  | .stalled => False
  | _ => True

theorem settled_answered (h : Settles answer) : (answered answer).Settled answer := by
  cases answer with
  | ok items => exact h items rfl
  | failed f => trivial
  | brokeDown payload => trivial

theorem settled_pulled {left : List Item} (h : .stalled ∉ left) :
    (pulled s left).1.Settled answer := by
  cases left with
  | nil => exact List.not_mem_nil
  | cons item left =>
    rw [List.mem_cons, not_or] at h
    cases item with
    | chunk c => exact h.2
    | failed f => exact h.2
    | brokeDown payload => trivial
    | stalled => exact h.1 rfl

theorem settled_sent {e : Event} {left : Option (List Item)}
    (h : (Phase.sending e left).Settled answer) : (sent e left).Settled answer := by
  cases left with
  | none => trivial
  | some left =>
    unfold sent
    cases e.isTerminal with
    | true => trivial
    | false => exact h

theorem Step.settled (h : Step s answer x y) (hx : x.relay.Settled answer) :
    y.relay.Settled answer := by
  cases h with
  | opens hrelay =>
    rw [hrelay] at hx
    exact settled_answered hx
  | pulls hrelay =>
    rw [hrelay] at hx
    exact settled_pulled hx
  | notices _ _ => trivial
  | sends hrelay _ _ =>
    rw [hrelay] at hx
    exact settled_sent hx
  | fails _ _ => trivial
  | stops _ => trivial
  | wakes _ _ => exact hx
  | alarms _ _ _ => exact hx
  | givesUp _ _ => exact hx
  | receives _ _ => exact hx
  | leaves _ => exact hx

/-- **A client that stays comes to the end**, if the stream does not stall. -/
theorem exists_run_to_end (hsettled : x.relay.Settled answer) (hconnected : x.isConnected = true) :
    ∃ y, Run s answer x y ∧ y.isConnected = true ∧ y.IsOver := by
  induction hwork : x.work answer using Nat.strongRecOn generalizing x with
  | ind n ih =>
    by_cases hover : x.IsOver
    · exact ⟨x, .refl, hconnected, hover⟩
    · have hstalled : x.relay ≠ .stalled := by
        intro h
        rw [h] at hsettled
        exact hsettled
      obtain ⟨z, hstep, hz⟩ := exists_step s answer hconnected hstalled hover
      obtain ⟨y, hrun, hy, hend⟩ :=
        ih _ (hwork ▸ hstep.work_lt hz) (hstep.settled hsettled) hz rfl
      exact ⟨y, .head hstep hrun, hy, hend⟩

theorem settled_of_reachable (hsettles : Settles answer) (h : Reachable s answer x) :
    x.relay.Settled answer :=
  invariant_of_reachable (fun x => x.relay.Settled answer) hsettles
    (fun _ _ hstep => hstep.settled) h

end

/-! ## 8. Streamed requests -/

section

variable {g : Gateway} {r : Request} {a : Permit} {log : List SafetyEvent}

/-- The whole is what is answered to the request. -/
theorem stream_eq_whole (h : g.permit r = (.ok a, log)) :
    (g.stream r).result = .ok (whole a.screen (a.provider.stream a.params).1).events := by
  cases hp : a.provider.stream a.params with
  | mk answer p =>
    cases answer with
    | failed f => rw [stream_of_failed h hp]; rfl
    | brokeDown payload => rw [stream_of_brokeDown h hp]; rfl
    | ok items => rw [stream_of_ok h hp]; rfl

/-- **Streamed requests, in whatever order the parties take their steps.** What the client has received
    is the beginning of what is answered to the request, which is what a client gets that stays to the
    end. The relay has taken at most two items more than the client has received events; once the client
    has left it takes at most one more, and nothing more is received. When the relay has stopped, for
    whatever reason, it has released the stream that it was given, if it was given one. -/
theorem reachable_interleaving (h : g.permit r = (.ok a, log)) {x : State}
    (hx : Reachable a.screen (a.provider.stream a.params).1 x) :
    ∃ events, (g.stream r).result = .ok events ∧
      x.received <+: events ∧
      (x.isConnected = true → (x.IsOver → x.received = events) ∧
        (Settles (a.provider.stream a.params).1 →
          ∃ y, Run a.screen (a.provider.stream a.params).1 x y ∧ y.isConnected = true ∧ y.IsOver)) ∧
      x.taken ≤ x.received.length + 2 ∧
      (x.isConnected = false → ∀ y, Run a.screen (a.provider.stream a.params).1 x y →
        y.received = x.received ∧ y.taken ≤ x.taken + 1) ∧
      ∀ brokeDown, x.relay = .stopped brokeDown → x.released = x.opened := by
  have hfaithful := faithful_of_reachable hx
  refine ⟨_, stream_eq_whole h, hfaithful.begins,
    fun hconnected => ⟨fun hover => ?_, fun hsettles => ?_⟩, ?_, fun hgone y hrun => ?_,
    fun brokeDown hstopped => ?_⟩
  · rw [hfaithful.whole_eq hconnected hover]
  · exact exists_run_to_end (settled_of_reachable hsettles hx) hconnected
  · have hbounded : x.taken + x.relay.mayPull ≤ x.received.length + x.ahead + 1 :=
      bounded_of_reachable hx
    have hahead := x.ahead_le
    omega
  · obtain ⟨-, hreceived, htaken⟩ := after_leaving_of_run hrun hgone
    have hmay := x.relay.mayPull_le
    exact ⟨hreceived, by omega⟩
  · have hbalanced : x.opened = x.released + x.relay.held := balanced_of_reachable hx
    rw [hstopped] at hbalanced
    exact hbalanced.symm

/-- A gateway whose provider breaks down while it streams. -/
def breaking : Gateway := scripted [] [.items [.brokeDown "fault"]]

theorem reachable_interleaving_of_breaking :
    ∃ events, (breaking.stream greeting).result = .ok events ∧
      [.error Refusal.internalMessage] = events := by
  let a := greetingPermit [] [.items [.brokeDown "fault"]]
  -- the client reads on until the watcher has told it
  let x : State :=
    ⟨.stopped true, .done, none, true, [.error Refusal.internalMessage], [], 1, 1, 1⟩
  have hx : Reachable a.screen (a.provider.stream a.params).1 x :=
    .tail (.tail (.tail (.tail (.tail (.tail .refl (.opens rfl)) (.pulls rfl)) (.stops rfl))
      (.wakes rfl rfl)) (.alarms rfl rfl rfl)) (.receives rfl rfl)
  obtain ⟨events, hresult, -, hstaying, -⟩ :=
    reachable_interleaving (permit_greeting [] [.items [.brokeDown "fault"]]) hx
  exact ⟨events, hresult, (hstaying rfl).1 ⟨⟨true, rfl⟩, rfl, rfl⟩⟩

end

end Interleaving

end Gatehouse.Gateway

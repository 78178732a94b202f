import Gatehouse.Provider.Wire

/-!
# Redirections

The client that requests are sent with follows redirections by itself. So one request may lead to several,
though to no more than eleven in all.

* `Line.after` is a line after some deliveries, and `Line.Unredirected` says that it redirects nothing;
* `Line.exchange_spec`: what the line has delivered when a request and its redirections are through;
* `Line.Asked` is what the requests of one call have in common, and `Line.Asked.le_one`: where nothing is
  redirected there is one at most;
* `WireRequest.body_of_mem_trail`: redirected requests have the body of the first one, or none.
-/

namespace Gatehouse.Provider

/-! ## 1. Lines -/

namespace Line

/-- The line after some deliveries. -/
def after (line : Line) : Nat → Line
  | 0 => line
  | n + 1 => line.next.2.after n

/-- **No answer of the line is a redirection.** -/
def Unredirected (line : Line) : Prop := ∀ r, .redirected r ∉ line.deliveries

theorem unredirected_answered (status : UInt16) (pieces : List (List UInt8)) (ending : Ending) :
    Unredirected ⟨[.answered status pieces ending]⟩ := fun r hr => by
  cases List.mem_singleton.1 hr

theorem next_mem (line : Line) : line.next.1 ∈ line.deliveries ∨ line.next.1 = .refused := by
  obtain ⟨deliveries⟩ := line
  match deliveries with
  | [] => exact .inr rfl
  | [d] => exact .inl List.mem_cons_self
  | d :: e :: ds => exact .inl List.mem_cons_self

theorem Unredirected.next_ne {line : Line} (h : line.Unredirected) (r : Redirection) :
    line.next.1 ≠ .redirected r := by
  intro hr
  rcases line.next_mem with hmem | hrefused
  · exact h r (hr ▸ hmem)
  · cases hrefused.symm.trans hr

theorem deliveries_next_subset (line : Line) : line.next.2.deliveries ⊆ line.deliveries := by
  obtain ⟨deliveries⟩ := line
  match deliveries with
  | [] => exact List.Subset.refl _
  | [d] => exact List.Subset.refl _
  | d :: e :: ds => exact List.subset_cons_self d (e :: ds)

theorem deliveries_after_subset (line : Line) (n : Nat) :
    (line.after n).deliveries ⊆ line.deliveries := by
  induction n generalizing line with
  | zero => exact List.Subset.refl _
  | succ n ih => exact List.Subset.trans (ih line.next.2) line.deliveries_next_subset

/-! ## 2. What comes of a request -/

theorem exchange_of_redirected {line : Line} {r : Redirection} (h : line.next.1 = .redirected r)
    (hops : Nat) : line.exchange (hops + 1) = ⟨r :: (line.next.2.exchange hops).redirections,
      (line.next.2.exchange hops).delivery, (line.next.2.exchange hops).after⟩ := by
  rw [exchange]
  cases hnext : line.next with
  | mk d next =>
    rw [hnext] at h
    obtain rfl : d = .redirected r := h
    rfl

theorem exchange_of_not_redirected {line : Line} (h : ∀ r, line.next.1 ≠ .redirected r)
    (hops : Nat) : line.exchange hops = ⟨[], line.next.1, line.next.2⟩ := by
  cases hops with
  | zero => rfl
  | succ hops =>
    rw [exchange]
    cases hnext : line.next with
    | mk d next =>
      rw [hnext] at h
      cases d with
      | redirected r => exact absurd rfl (h r)
      | refused => rfl
      | timedOut => rfl
      | answered status pieces ending => rfl

theorem exchange_of_unredirected {line : Line} (h : line.Unredirected) (hops : Nat) :
    line.exchange hops = ⟨[], line.next.1, line.next.2⟩ :=
  exchange_of_not_redirected h.next_ne hops

/-- **What comes of a request**: the line has delivered each redirection that was followed, and one
    thing more. -/
theorem exchange_spec (hops : Nat) (line : Line) :
    (line.exchange hops).after = line.after ((line.exchange hops).redirections.length + 1) ∧
      (line.exchange hops).redirections.length ≤ hops ∧
      ∀ i < (line.exchange hops).redirections.length, ∃ r, (line.after i).next.1 = .redirected r := by
  induction hops generalizing line with
  | zero => exact ⟨rfl, Nat.le_refl 0, fun i hi => absurd hi (Nat.not_lt_zero i)⟩
  | succ hops ih =>
    by_cases h : ∃ r, line.next.1 = .redirected r
    · obtain ⟨r, hr⟩ := h
      obtain ⟨hafter, hlength, hredirected⟩ := ih line.next.2
      rw [exchange_of_redirected hr]
      refine ⟨hafter, Nat.succ_le_succ hlength, fun i hi => ?_⟩
      cases i with
      | zero => exact ⟨r, hr⟩
      | succ i => exact hredirected i (Nat.lt_of_succ_lt_succ hi)
    · rw [exchange_of_not_redirected (not_exists.1 h)]
      exact ⟨rfl, Nat.zero_le _, fun i hi => absurd hi (Nat.not_lt_zero i)⟩

/-- **The requests of one call**: the line delivers something for each of them, and each is booked but
    the last one if nobody answers it. All but the first are made for a redirection. -/
structure Asked (line : Line) (n : Nat) (requests : List WireRequest) : Prop where
  atMost : n ≤ maxHops + 1
  booked : requests.length ≤ n ∧ n ≤ requests.length + 1
  redirected : ∀ i, i + 1 < n → ∃ r, (line.after i).next.1 = .redirected r

theorem asked_zero (line : Line) : line.Asked 0 [] where
  atMost := Nat.zero_le _
  booked := ⟨Nat.le_refl 0, Nat.zero_le 1⟩
  redirected := fun i hi => absurd hi (Nat.not_lt_zero (i + 1))

/-- Where nothing is redirected one request is all. -/
theorem Asked.le_one {line : Line} {n : Nat} {requests : List WireRequest}
    (h : line.Asked n requests) (hline : line.Unredirected) : n ≤ 1 := by
  refine Nat.le_of_not_lt fun hmore => ?_
  obtain ⟨r, hr⟩ := h.redirected 0 hmore
  exact hline.next_ne r hr

end Line

/-! ## 3. Requests -/

namespace WireRequest

variable (w : WireRequest) (lastAnswered : Bool) (rs : List Redirection)

/-- The first request is answered if something comes back for it, be it a redirection. -/
theorem trail_exchange (hops : Nat) (line : Line) :
    w.trail (line.exchange hops).delivery.isAnswered (line.exchange hops).redirections =
      if line.next.1.isAnswered then
        w :: (w.trail (line.exchange hops).delivery.isAnswered (line.exchange hops).redirections).tail
      else [] := by
  cases hops with
  | zero =>
    rw [Line.exchange, trail]
    cases line.next.1.isAnswered <;> rfl
  | succ hops =>
    by_cases h : ∃ r, line.next.1 = .redirected r
    · obtain ⟨r, hr⟩ := h
      rw [line.exchange_of_redirected hr, hr]
      rfl
    · rw [line.exchange_of_not_redirected (not_exists.1 h), trail]
      cases line.next.1.isAnswered <;> rfl

theorem length_trail :
    (w.trail lastAnswered rs).length = rs.length + if lastAnswered then 1 else 0 := by
  induction rs generalizing w with
  | nil => cases lastAnswered <;> rfl
  | cons r rs ih =>
    rw [trail, List.length_cons, ih, List.length_cons]
    omega

/-- **A redirected request keeps its body**, or becomes one without a body. -/
theorem body_of_mem_trail {v : WireRequest} (h : v ∈ w.trail lastAnswered rs) :
    v.method = w.method ∧ v.body = w.body ∨ v.method = .get ∧ v.body = "" := by
  induction rs generalizing w with
  | nil =>
    cases lastAnswered with
    | false => cases h
    | true =>
      obtain rfl := List.mem_singleton.1 h
      exact .inl ⟨rfl, rfl⟩
  | cons r rs ih =>
    rcases List.mem_cons.1 h with rfl | h
    · exact .inl ⟨rfl, rfl⟩
    · have hnext := ih (w.redirected r) h
      unfold redirected at hnext
      cases hkeeps : r.keepsRequest with
      | true => simpa [hkeeps] using hnext
      | false => exact .inr (by simpa [hkeeps] using hnext)

end WireRequest

end Gatehouse.Provider

import Mathlib.Data.List.Basic

/-!
# Two queues from one sender

A sender puts each message into one of two queues and stamps it with the number
of messages sent before it. Either queue delivers in order, and may lose messages;
which of the two delivers next is open, so that a message can overtake older ones
in the other queue. `clash` says for which messages that matters.

* `InOrder` — no message that was delivered was sent after one still queued with
  which it clashes;
* `InOrder.send`, `InOrder.lose` — sending and losing keep it;
* `InOrder.deliver` — so does delivering a message that overtakes none it clashes
  with.

The lemmas are about the first queue; `InOrder.swap` makes them about the second.
-/

namespace TwoChannels

variable {μ : Type*}

/-- `first` and `second` are the queues, oldest message first; `sent` is the number
of messages sent. -/
structure InOrder (stamp : μ → Nat) (clash : μ → μ → Prop) (sent : Nat)
    (first second delivered : List μ) : Prop where
  first_sorted : first.Pairwise fun x y => stamp x < stamp y
  second_sorted : second.Pairwise fun x y => stamp x < stamp y
  apart : ∀ x ∈ first, ∀ y ∈ second, stamp x ≠ stamp y
  stamp_lt : ∀ x ∈ delivered ++ (first ++ second), stamp x < sent
  ahead : ∀ d ∈ delivered, ∀ x ∈ first ++ second, clash d x → stamp d < stamp x

variable {stamp : μ → Nat} {clash : μ → μ → Prop} {sent : Nat} {m : μ}
  {first second delivered : List μ}

/-- Nothing was sent. -/
theorem InOrder.start : InOrder stamp clash 0 ([] : List μ) [] [] :=
  ⟨.nil, .nil, fun _ h => absurd h List.not_mem_nil, fun _ h => absurd h List.not_mem_nil,
    fun _ h => absurd h List.not_mem_nil⟩

/-- The two queues have the same rights. -/
theorem InOrder.swap (h : InOrder stamp clash sent first second delivered) :
    InOrder stamp clash sent second first delivered := by
  have hmem {x : μ} (hx : x ∈ second ++ first) : x ∈ first ++ second :=
    List.mem_append.mpr (List.mem_append.mp hx).symm
  refine ⟨h.second_sorted, h.first_sorted, fun x hx y hy => (h.apart y hy x hx).symm, ?_,
    fun d hd x hx => h.ahead d hd x (hmem hx)⟩
  intro x hx
  rcases List.mem_append.mp hx with hold | hqueued
  · exact h.stamp_lt x (List.mem_append_left _ hold)
  · exact h.stamp_lt x (List.mem_append_right _ (hmem hqueued))

/-- A message is sent: nothing was sent later. -/
theorem InOrder.send (h : InOrder stamp clash sent first second delivered)
    (hm : stamp m = sent) : InOrder stamp clash (sent + 1) (first ++ [m]) second delivered := by
  have hmem {x : μ} (hx : x ∈ first ++ [m] ++ second) : x = m ∨ x ∈ first ++ second := by
    rcases List.mem_append.mp hx with hx | hx
    · rcases List.mem_append.mp hx with hx | hx
      · exact Or.inr (List.mem_append_left _ hx)
      · exact Or.inl (List.mem_singleton.mp hx)
    · exact Or.inr (List.mem_append_right _ hx)
  refine ⟨?_, h.second_sorted, ?_, ?_, ?_⟩
  · refine List.pairwise_append.mpr ⟨h.first_sorted, List.pairwise_singleton _ _, ?_⟩
    intro x hx y hy
    rw [List.mem_singleton.mp hy, hm]
    exact h.stamp_lt x (List.mem_append_right _ (List.mem_append_left _ hx))
  · intro x hx y hy
    rcases List.mem_append.mp hx with hold | hnew
    · exact h.apart x hold y hy
    · have hlt := h.stamp_lt y (List.mem_append_right _ (List.mem_append_right _ hy))
      rw [List.mem_singleton.mp hnew, hm]
      exact (Nat.ne_of_lt hlt).symm
  · intro x hx
    rcases List.mem_append.mp hx with hold | hqueued
    · exact Nat.lt_succ_of_lt (h.stamp_lt x (List.mem_append_left _ hold))
    · rcases hmem hqueued with rfl | hqueued
      · rw [hm]
        exact Nat.lt_succ_self _
      · exact Nat.lt_succ_of_lt (h.stamp_lt x (List.mem_append_right _ hqueued))
  · intro d hd x hx hclash
    rcases hmem hx with rfl | hqueued
    · rw [hm]
      exact h.stamp_lt d (List.mem_append_left _ hd)
    · exact h.ahead d hd x hqueued hclash

/-- Messages are lost. -/
theorem InOrder.lose (h : InOrder stamp clash sent first second delivered) {fewer : List μ}
    (hsub : List.Sublist fewer first) : InOrder stamp clash sent fewer second delivered := by
  have hmem {x : μ} (hx : x ∈ fewer ++ second) : x ∈ first ++ second := by
    rcases List.mem_append.mp hx with hx | hx
    · exact List.mem_append_left _ (hsub.subset hx)
    · exact List.mem_append_right _ hx
  refine ⟨h.first_sorted.sublist hsub, h.second_sorted, fun x hx => h.apart x (hsub.subset hx),
    ?_, fun d hd x hx => h.ahead d hd x (hmem hx)⟩
  intro x hx
  rcases List.mem_append.mp hx with hold | hqueued
  · exact h.stamp_lt x (List.mem_append_left _ hold)
  · exact h.stamp_lt x (List.mem_append_right _ (hmem hqueued))

/-- **A message is delivered that overtakes none it clashes with.** -/
theorem InOrder.deliver (h : InOrder stamp clash sent (m :: first) second delivered)
    (hnone : ∀ x ∈ second, clash m x → ¬ stamp x < stamp m) :
    InOrder stamp clash sent first second (delivered ++ [m]) := by
  have hrest := h.lose (List.sublist_cons_self m first)
  refine ⟨hrest.first_sorted, hrest.second_sorted, hrest.apart, ?_, ?_⟩
  · intro x hx
    apply h.stamp_lt
    rcases List.mem_append.mp hx with hx | hqueued
    · rcases List.mem_append.mp hx with hold | hnew
      · exact List.mem_append_left _ hold
      · rw [List.mem_singleton.mp hnew]
        exact List.mem_append_right _ List.mem_cons_self
    · exact List.mem_append_right _ (List.mem_cons_of_mem _ hqueued)
  · intro d hd x hx hclash
    rcases List.mem_append.mp hd with hold | hnew
    · exact hrest.ahead d hold x hx hclash
    · rw [List.mem_singleton] at hnew
      subst hnew
      -- in its own queue the message was the oldest
      rcases List.mem_append.mp hx with hfirst | hsecond
      · exact (List.pairwise_cons.mp h.first_sorted).1 x hfirst
      · have hne := h.apart d List.mem_cons_self x hsecond
        have hle := hnone x hsecond hclash
        omega

end TwoChannels

import Mathlib.Logic.Relation
import UartBridge.Lib.Run

/-!
# Threads that lock mutexes in scopes

A thread's code is known by what it does with mutexes: it runs pieces one after the
other, goes one way or the other, repeats a piece, and runs a piece with a mutex
locked. A thread that comes to a locked piece waits until the mutex has no owner.

When the mutexes have ranks and every piece locks only mutexes above those it runs
under (`Code.Ordered`), a run never reaches a state with a deadlock:

* `Ordered.mono`, `Ordered.all` — how the order of a piece follows from its parts;
* `Disciplined.step` — what a thread holds is below what it may still lock;
* `deadlockFree_of_ordered` — no thread waits for itself, and no threads wait for
  each other in a circle.
-/

namespace LockOrder

variable {ι μ : Type*}

/-- What a thread does with mutexes. -/
inductive Code (μ : Type*) where
  | skip
  | seq (first second : Code μ)
  | choice (left right : Code μ)
  | loop (body : Code μ)
  | locked (l : μ) (body : Code μ)

/-- Pieces one after the other. -/
def Code.all : List (Code μ) → Code μ
  | [] => .skip
  | c :: cs => .seq c (all cs)

/-- What a thread has still to do, first to last. -/
inductive Item (μ : Type*) where
  | run (c : Code μ)
  | release (l : μ)

/-- What each thread has still to do, and which thread owns each mutex. -/
structure Pool (ι μ : Type*) where
  stack : ι → List (Item μ)
  owner : μ → Option ι

namespace Pool

def start (code : ι → Code μ) : Pool ι μ :=
  { stack := fun t => [.run (code t)], owner := fun _ => none }

/-- The mutex that a thread is about to lock. -/
def wants (s : Pool ι μ) (t : ι) : Option μ :=
  match s.stack t with
  | .run (.locked l _) :: _ => some l
  | _ => none

/-- Thread `t` waits for a mutex that thread `u` holds. -/
def WaitsFor (s : Pool ι μ) (t u : ι) : Prop := ∃ l, s.wants t = some l ∧ s.owner l = some u

/-- No thread tries to lock what it holds, and no threads wait for each other in a
circle. -/
structure DeadlockFree (s : Pool ι μ) : Prop where
  self : ∀ t l, s.wants t = some l → s.owner l ≠ some t
  acyclic : ∀ t, ¬ Relation.TransGen s.WaitsFor t t

variable [DecidableEq ι]

def setStack (s : Pool ι μ) (t : ι) (k : List (Item μ)) : Pool ι μ :=
  { s with stack := Function.update s.stack t k }

/-- A step of one thread. The flag says which way it goes at a choice, and whether it
runs the body of a loop once more. -/
def step [DecidableEq μ] (s : Pool ι μ) (e : ι × Bool) : Option (Pool ι μ) :=
  match s.stack e.1 with
  | [] => none
  | .run .skip :: k => some (s.setStack e.1 k)
  | .run (.seq first second) :: k => some (s.setStack e.1 (.run first :: .run second :: k))
  | .run (.choice left right) :: k =>
    some (s.setStack e.1 (.run (if e.2 then left else right) :: k))
  | .run (.loop body) :: k =>
    some (s.setStack e.1 (if e.2 then .run body :: .run (.loop body) :: k else k))
  | .run (.locked l body) :: k =>
    match s.owner l with
    | some _ => none
    | none =>
      some { stack := Function.update s.stack e.1 (.run body :: .release l :: k)
             owner := Function.update s.owner l (some e.1) }
  | .release l :: k =>
    some { stack := Function.update s.stack e.1 k, owner := Function.update s.owner l none }

end Pool

/-! ## The order -/

/-- The code locks only mutexes of rank `b` or more, and under a mutex only mutexes of
a higher rank. -/
def Code.Ordered (rank : μ → Nat) : Nat → Code μ → Prop
  | _, .skip => True
  | b, .seq first second => first.Ordered rank b ∧ second.Ordered rank b
  | b, .choice left right => left.Ordered rank b ∧ right.Ordered rank b
  | b, .loop body => body.Ordered rank b
  | b, .locked l body => b ≤ rank l ∧ body.Ordered rank (rank l + 1)

variable {rank : μ → Nat} {b b' : Nat}

theorem Ordered.mono (hb : b' ≤ b) {c : Code μ} (h : c.Ordered rank b) : c.Ordered rank b' := by
  induction c with
  | skip => trivial
  | seq first second ihFirst ihSecond => exact ⟨ihFirst h.1, ihSecond h.2⟩
  | choice left right ihLeft ihRight => exact ⟨ihLeft h.1, ihRight h.2⟩
  | loop body ih => exact ih h
  | locked l body => exact ⟨Nat.le_trans hb h.1, h.2⟩

theorem Ordered.all {cs : List (Code μ)} (h : ∀ c ∈ cs, c.Ordered rank b) :
    (Code.all cs).Ordered rank b := by
  induction cs with
  | nil => trivial
  | cons c cs ih =>
    exact ⟨h c List.mem_cons_self, ih fun d hd => h d (List.mem_cons_of_mem _ hd)⟩

/-- One more than the rank of the mutex locked last. -/
def bound (rank : μ → Nat) : List (Item μ) → Nat
  | [] => 0
  | .run _ :: k => bound rank k
  | .release l :: _ => rank l + 1

/-- Every piece of code respects the mutexes it will run under. -/
def OrderedStack (rank : μ → Nat) : List (Item μ) → Prop
  | [] => True
  | .run c :: k => c.Ordered rank (bound rank k) ∧ OrderedStack rank k
  | .release l :: k => bound rank k ≤ rank l ∧ OrderedStack rank k

/-- What is held is below the bound. -/
theorem lt_bound_of_release {k : List (Item μ)} (h : OrderedStack rank k) {l : μ}
    (hl : .release l ∈ k) : rank l < bound rank k := by
  induction k with
  | nil => cases hl
  | cons item k ih =>
    rcases List.mem_cons.mp hl with rfl | hrest
    · exact Nat.lt_succ_self _
    · cases item with
      | run c => exact ih h.2 hrest
      | release l' => exact Nat.lt_succ_of_lt (Nat.lt_of_lt_of_le (ih h.2 hrest) h.1)

/-- Every thread's stack is in order, and what a thread owns it will release. -/
structure Disciplined (rank : μ → Nat) (s : Pool ι μ) : Prop where
  ordered : ∀ t, OrderedStack rank (s.stack t)
  owned : ∀ l t, s.owner l = some t → .release l ∈ s.stack t

theorem Disciplined.start {code : ι → Code μ} (h : ∀ t, (code t).Ordered rank 0) :
    Disciplined rank (Pool.start code) :=
  ⟨fun t => ⟨h t, trivial⟩, fun _ _ hl => by cases hl⟩

section Steps

variable [DecidableEq ι] {s s' : Pool ι μ} {t : ι}

/-- A thread goes on with another stack. It releases there what it owns now, and the other
threads own no more than before. -/
theorem Disciplined.moved (h : Disciplined rank s) {k : List (Item μ)} {owner : μ → Option ι}
    (hordered : OrderedStack rank k) (hmine : ∀ l, owner l = some t → .release l ∈ k)
    (hothers : ∀ l u, u ≠ t → owner l = some u → s.owner l = some u) :
    Disciplined rank { stack := Function.update s.stack t k, owner := owner } := by
  refine ⟨?_, ?_⟩
  · intro u
    by_cases hu : u = t
    · subst hu
      show OrderedStack rank (Function.update s.stack u k u)
      rw [Function.update_self]
      exact hordered
    · show OrderedStack rank (Function.update s.stack t k u)
      rw [Function.update_of_ne hu]
      exact h.ordered u
  · intro l u hl
    by_cases hu : u = t
    · subst hu
      show .release l ∈ Function.update s.stack u k u
      rw [Function.update_self]
      exact hmine l hl
    · show .release l ∈ Function.update s.stack t k u
      rw [Function.update_of_ne hu]
      exact h.owned l u (hothers l u hu hl)

/-- A step within the code of a thread: nothing is locked or released. -/
theorem Disciplined.internal (h : Disciplined rank s) {k : List (Item μ)}
    (hordered : OrderedStack rank k) (hkeep : ∀ l, .release l ∈ s.stack t → .release l ∈ k) :
    Disciplined rank (s.setStack t k) :=
  h.moved hordered (fun l hl => hkeep l (h.owned l t hl)) fun _ _ _ hl => hl

variable [DecidableEq μ]

/-- A thread locks a free mutex, and will release it behind the code that runs under it. -/
theorem Disciplined.lock (h : Disciplined rank s) {k k' : List (Item μ)} {l : μ}
    (hordered : OrderedStack rank k') (hl : .release l ∈ k')
    (hkeep : ∀ l', .release l' ∈ s.stack t → .release l' ∈ k) (hsub : k ⊆ k') :
    Disciplined rank
      { stack := Function.update s.stack t k', owner := Function.update s.owner l (some t) } := by
  refine h.moved hordered ?_ ?_
  · intro l' hl'
    by_cases hll : l' = l
    · subst hll
      exact hl
    · rw [Function.update_of_ne hll] at hl'
      exact hsub (hkeep l' (h.owned l' t hl'))
  · intro l' u hu hl'
    by_cases hll : l' = l
    · subst hll
      rw [Function.update_self] at hl'
      exact absurd (Option.some.inj hl').symm hu
    · rwa [Function.update_of_ne hll] at hl'

/-- A thread releases a mutex at the end of the code that runs under it. -/
theorem Disciplined.release (h : Disciplined rank s) {k : List (Item μ)} {l : μ}
    (hk : s.stack t = .release l :: k) :
    Disciplined rank
      { stack := Function.update s.stack t k, owner := Function.update s.owner l none } := by
  have hordered := h.ordered t
  rw [hk] at hordered
  -- the mutex has no owner now; the others have the owners they had
  have hother {l' : μ} {u : ι} (hl' : Function.update s.owner l none l' = some u) :
      l' ≠ l ∧ s.owner l' = some u := by
    by_cases hll : l' = l
    · subst hll
      rw [Function.update_self] at hl'
      cases hl'
    · rw [Function.update_of_ne hll] at hl'
      exact ⟨hll, hl'⟩
  refine h.moved hordered.2 ?_ fun _ _ _ hl' => (hother hl').2
  intro l' hl'
  obtain ⟨hll, howner⟩ := hother hl'
  have hmem := h.owned l' t howner
  rw [hk] at hmem
  refine (List.mem_cons.mp hmem).resolve_left ?_
  intro heq
  exact hll (Item.release.inj heq)

/-- **One step.** -/
theorem Disciplined.step (h : Disciplined rank s) {e : ι × Bool}
    (hstep : s.step e = some s') : Disciplined rank s' := by
  have hordered := h.ordered e.1
  -- what comes behind a piece of code is all that will be released
  have hbehind {c : Code μ} {k : List (Item μ)} (hk : s.stack e.1 = .run c :: k) (l : μ)
      (hl : .release l ∈ s.stack e.1) : .release l ∈ k := by
    rw [hk] at hl
    exact (List.mem_cons.mp hl).resolve_left nofun
  unfold Pool.step at hstep
  split at hstep
  · cases hstep
  · -- `skip`
    rename_i k hk
    obtain rfl := Option.some.inj hstep
    rw [hk] at hordered
    exact h.internal hordered.2 (hbehind hk)
  · -- `seq`
    rename_i first second k hk
    obtain rfl := Option.some.inj hstep
    rw [hk] at hordered
    refine h.internal ⟨hordered.1.1, hordered.1.2, hordered.2⟩ ?_
    intro l hl
    exact List.mem_cons_of_mem _ (List.mem_cons_of_mem _ (hbehind hk l hl))
  · -- `choice`
    rename_i left right k hk
    obtain rfl := Option.some.inj hstep
    rw [hk] at hordered
    refine h.internal ⟨?_, hordered.2⟩ fun l hl => List.mem_cons_of_mem _ (hbehind hk l hl)
    split
    · exact hordered.1.1
    · exact hordered.1.2
  · -- `loop`
    rename_i body k hk
    obtain rfl := Option.some.inj hstep
    rw [hk] at hordered
    split
    · refine h.internal ⟨hordered.1, hordered.1, hordered.2⟩ ?_
      intro l hl
      exact List.mem_cons_of_mem _ (List.mem_cons_of_mem _ (hbehind hk l hl))
    · exact h.internal hordered.2 (hbehind hk)
  · -- `locked`
    rename_i l body k hk
    rw [hk] at hordered
    obtain ⟨⟨hrank, hbody⟩, hrest⟩ := hordered
    split at hstep
    · cases hstep
    · obtain rfl := Option.some.inj hstep
      exact h.lock ⟨hbody, hrank, hrest⟩ (List.mem_cons_of_mem _ List.mem_cons_self) (hbehind hk)
        fun _ hmem => List.mem_cons_of_mem _ (List.mem_cons_of_mem _ hmem)
  · -- the end of a locked piece
    rename_i l k hk
    obtain rfl := Option.some.inj hstep
    exact h.release hk

end Steps

/-! ## No deadlock -/

variable {s : Pool ι μ}

/-- What a thread wants has a higher rank than all it holds. -/
theorem Disciplined.rank_lt (h : Disciplined rank s) {t : ι} {held l : μ}
    (hheld : s.owner held = some t) (hwants : s.wants t = some l) : rank held < rank l := by
  have hordered := h.ordered t
  have hmem := h.owned held t hheld
  unfold Pool.wants at hwants
  split at hwants
  · rename_i l' body k hk
    obtain rfl := Option.some.inj hwants
    rw [hk] at hordered hmem
    obtain ⟨⟨hrank, -⟩, hrest⟩ := hordered
    have hk' := (List.mem_cons.mp hmem).resolve_left nofun
    exact Nat.lt_of_lt_of_le (lt_bound_of_release hrest hk') hrank
  · cases hwants

/-- Along a chain of waiting threads the rank of what is wanted goes up. -/
theorem Disciplined.chain_lt (h : Disciplined rank s) {t u : ι}
    (hchain : Relation.TransGen s.WaitsFor t u) {l : μ} (hl : s.wants u = some l) :
    ∃ l₀, s.wants t = some l₀ ∧ rank l₀ < rank l := by
  induction hchain generalizing l with
  | single hwait =>
    obtain ⟨l₀, hwants, howner⟩ := hwait
    exact ⟨l₀, hwants, h.rank_lt howner hl⟩
  | tail _ hwait ih =>
    obtain ⟨l₁, hwants, howner⟩ := hwait
    obtain ⟨l₀, hl₀, hlt⟩ := ih hwants
    exact ⟨l₀, hl₀, Nat.lt_trans hlt (h.rank_lt howner hl)⟩

theorem Disciplined.deadlockFree (h : Disciplined rank s) : s.DeadlockFree := by
  refine ⟨?_, ?_⟩
  · intro t l hwants howner
    exact Nat.lt_irrefl _ (h.rank_lt howner hwants)
  · intro t hcircle
    obtain ⟨u, hwait, -⟩ := Relation.TransGen.head'_iff.mp hcircle
    obtain ⟨l, hl, -⟩ := hwait
    obtain ⟨l₀, hl₀, hlt⟩ := h.chain_lt hcircle hl
    rw [hl, Option.some.injEq] at hl₀
    rw [hl₀] at hlt
    exact Nat.lt_irrefl _ hlt

/-- **No deadlock.** Threads whose code locks mutexes in the order of their ranks never
come to a deadlock. -/
theorem deadlockFree_of_ordered [DecidableEq ι] [DecidableEq μ] {code : ι → Code μ}
    (hordered : ∀ t, (code t).Ordered rank 0) {es : List (ι × Bool)}
    (run : EventRun.exec Pool.step (Pool.start code) es = some s) : s.DeadlockFree :=
  (EventRun.exec_invariant (Disciplined rank) (fun _ _ _ h hstep => h.step hstep)
    (Disciplined.start hordered) run).deadlockFree

end LockOrder

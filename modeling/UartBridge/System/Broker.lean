import UartBridge.Lib.Run
import UartBridge.System.BrokerCalls

/-!
# The debug build of the message broker

What the debug build costs, and what it does not, on any schedule of any number of threads:

* `stepped` — what a step does to the active calls, and to what is kept for them;
* `returns`, `depth_le`, `kept_of_return` — the calls end, and leave everything as it was;
* `release_step` — as long as nothing is refused, both builds make the same steps;
* `debug_conservative` — the debug build against the other one.
-/

namespace UartBridge.Broker

open EventRun Client MessageBroker

variable {Tid σ Src Msg Sub : Type}

/-! ## Steps -/

section Steps

variable {β κ : Type}

/-- The source of the `SendMessage` call that a step makes. -/
def sending (s : MessageBroker Tid σ Src Msg Sub β κ) : BrokerEvent Tid Src Msg → Option Src
  | .call _ source _ => some source
  | .run thread =>
    match s.calls thread with
    | [] => none
    | f :: _ =>
      match f.code with
      | .send source _ _ => some source
      | .done | .act _ _ => none

/-- The sources of the active calls of a thread, of which one may be there twice only where
nothing is refused. -/
def sources (s : MessageBroker Tid σ Src Msg Sub β κ) (thread : Tid) : List Src :=
  (s.calls thread).map Frame.source

/-- A step by which no source sends again while a send of it is active on the same thread. -/
def NotAgain (s : MessageBroker Tid σ Src Msg Sub β κ) (e : BrokerEvent Tid Src Msg) : Prop :=
  ∀ source, sending s e = some source → source ∉ sources s e.thread

/-- A step by which a thread sends for the sources in `S` only. -/
def SendsFrom (thread : Tid) (S : Finset Src) (s : MessageBroker Tid σ Src Msg Sub β κ)
    (e : BrokerEvent Tid Src Msg) : Prop :=
  e.thread = thread → ∀ source, sending s e = some source → source ∈ S

variable [DecidableEq Tid] {build : Build Tid Src β κ} {P : Subscribers σ Src Msg Sub}
  {s u : MessageBroker Tid σ Src Msg Sub β κ} {e : BrokerEvent Tid Src Msg}

/-- What a thread does in a step: it sends, its handler works on the shared state, or its loop
goes on. -/
theorem step_cases (h : step build P s e = some u) :
    (∃ source message, sending s e = some source ∧
      (∀ f fs, s.calls e.thread = f :: fs → ∃ next, f.code = .send source message next) ∧
      u = s.sendMessage build P e.thread source message) ∨
    (∃ f fs update next, s.calls e.thread = f :: fs ∧ f.code = .act update next ∧
      u = { s with shared := update s.shared }.setCalls e.thread
        ({ f with code := next s.shared } :: fs)) ∨
    (∃ f fs, s.calls e.thread = f :: fs ∧ f.code = .done ∧
      u = s.loopTurn build P e.thread f fs) := by
  cases e with
  | call thread source message =>
    cases hcalls : s.calls thread with
    | cons f fs => simp only [step, hcalls, reduceCtorEq] at h
    | nil =>
      simp only [step, hcalls, Option.some.injEq] at h
      refine Or.inl ⟨source, message, rfl, ?_, h.symm⟩
      intro f fs hcons
      exact absurd (hcalls.symm.trans hcons) (List.cons_ne_nil f fs).symm
  | run thread =>
    cases hcalls : s.calls thread with
    | nil => simp only [step, hcalls, reduceCtorEq] at h
    | cons f fs =>
      cases hcode : f.code with
      | done =>
        simp only [step, hcalls, hcode, Option.some.injEq] at h
        exact Or.inr (Or.inr ⟨f, fs, hcalls, hcode, h.symm⟩)
      | act update next =>
        simp only [step, hcalls, hcode, Option.some.injEq] at h
        exact Or.inr (Or.inl ⟨f, fs, update, next, hcalls, hcode, h.symm⟩)
      | send source message next =>
        simp only [step, hcalls, hcode, Option.some.injEq] at h
        refine Or.inl ⟨source, message, ?_, ?_, h.symm⟩
        · simp only [sending, hcalls, hcode]
        · intro g gs hcons
          cases hcalls.symm.trans hcons
          exact ⟨next, hcode⟩

/-- A thread in a call is never held up. -/
theorem exists_step {thread : Tid} (hne : s.calls thread ≠ []) :
    ∃ u, step build P s (.run thread) = some u := by
  obtain ⟨f, fs, hcalls⟩ := List.exists_cons_of_ne_nil hne
  cases hcode : f.code <;> simp [step, hcalls, hcode]

end Steps

/-! ## The debug build -/

section DebugSteps

/-- The broker in the debug build. -/
abbrev DebugBroker (Tid σ Src Msg Sub : Type) :=
  MessageBroker Tid σ Src Msg Sub (Callers Tid Src) Locals

def asCall (f : Frame σ Src Msg Sub Locals) : Call Src := (f.source, f.locals)

/-- The active calls of each thread. -/
def activeCalls (s : DebugBroker Tid σ Src Msg Sub) (thread : Tid) : List (Call Src) :=
  (s.calls thread).map asCall

theorem activeCalls_sources (s : DebugBroker Tid σ Src Msg Sub) (thread : Tid) :
    (activeCalls s thread).map Prod.fst = sources s thread := by
  rw [activeCalls, List.map_map]
  rfl

theorem resume_call (shared : σ) (fs : List (Frame σ Src Msg Sub Locals)) :
    (resume shared fs).map asCall = fs.map asCall :=
  resume_map asCall (fun _ _ => rfl) shared fs

theorem length_activeCalls (s : DebugBroker Tid σ Src Msg Sub) (thread : Tid) :
    (activeCalls s thread).length = (s.calls thread).length :=
  List.length_map _

theorem activeCalls_setCalls [DecidableEq Tid] (s : DebugBroker Tid σ Src Msg Sub) (thread : Tid)
    (active : List (Frame σ Src Msg Sub Locals)) :
    activeCalls (s.setCalls thread active) =
      Function.update (activeCalls s) thread (active.map asCall) := by
  funext t
  by_cases ht : t = thread
  · subst ht
    simp only [activeCalls, setCalls, Function.update_self]
  · simp only [activeCalls, setCalls, Function.update_of_ne ht]

variable [DecidableEq Src] {P : Subscribers σ Src Msg Sub}
  {s u : DebugBroker Tid σ Src Msg Sub} {e : BrokerEvent Tid Src Msg}

/-- Nothing is kept before the first send. -/
theorem booked_init (shared : σ) :
    Booked (Callers.empty Tid Src)
      (activeCalls (init (Callers.empty Tid Src) shared : DebugBroker Tid σ Src Msg Sub)) where
  registered := fun _ => Registered.nil rfl
  apart := fun _ _ _ ho => nomatch ho
  started := fun _ _ ho => nomatch ho

/-- No source has two active calls on a thread. -/
theorem Booked.nodup (h : Booked s.book (activeCalls s)) (thread : Tid) :
    (sources s thread).Nodup :=
  activeCalls_sources s thread ▸ (h.registered thread).nodup

/-- What is kept for a thread: its entry, and the set that it points to. -/
def kept (s : DebugBroker Tid σ Src Msg Sub) (thread : Tid) : Option (Nat × Finset Src) :=
  (s.book.callers thread).map fun o => (o, s.book.newSenders o)

/-- What is kept for a thread depends on its active calls only. -/
theorem kept_congr (hs : Booked s.book (activeCalls s)) (hu : Booked u.book (activeCalls u))
    {thread : Tid} (hcalls : activeCalls u thread = activeCalls s thread) :
    kept u thread = kept s thread := by
  have hregs := hs.registered thread
  have hregu := hu.registered thread
  rw [hcalls] at hregu
  unfold kept
  rw [hregu.callers_eq, hregs.callers_eq]
  cases howner : owner (activeCalls s thread) with
  | none => rfl
  | some o =>
    rw [Option.map_some, Option.map_some, hregu.senders_eq o howner, hregs.senders_eq o howner]

variable [DecidableEq Tid]

/-- What a step does to the active calls. -/
structure Stepped (P : Subscribers σ Src Msg Sub) (s u : DebugBroker Tid σ Src Msg Sub)
    (e : BrokerEvent Tid Src Msg) : Prop where
  booked : Booked u.book (activeCalls u)
  others : ∀ t, t ≠ e.thread → u.calls t = s.calls t
  own : activeCalls u e.thread = activeCalls s e.thread ∨
    (∃ c, sending s e = some c.1 ∧ activeCalls u e.thread = c :: activeCalls s e.thread) ∨
    (∃ c, activeCalls s e.thread = c :: activeCalls u e.thread)
  threadStep : s.calls e.thread ≠ [] → ThreadStep P (s.calls e.thread) (u.calls e.thread)

/-- A step as far as its thread goes. -/
theorem stepped_of {s' : DebugBroker Tid σ Src Msg Sub}
    {active : List (Frame σ Src Msg Sub Locals)} (hcalls : s'.calls = s.calls)
    (hbooked : Booked s'.book
      (Function.update (activeCalls s) e.thread (active.map asCall)))
    (hown : active.map asCall = activeCalls s e.thread ∨
      (∃ c, sending s e = some c.1 ∧ active.map asCall = c :: activeCalls s e.thread) ∨
      (∃ c, activeCalls s e.thread = c :: active.map asCall))
    (hthread : s.calls e.thread ≠ [] → ThreadStep P (s.calls e.thread) active) :
    Stepped P s (s'.setCalls e.thread active) e := by
  have hsame : activeCalls s' = activeCalls s := by
    funext t
    rw [activeCalls, hcalls, activeCalls]
  have hself : activeCalls (s'.setCalls e.thread active) e.thread = active.map asCall := by
    rw [activeCalls_setCalls, Function.update_self]
  have hcallsself : (s'.setCalls e.thread active).calls e.thread = active :=
    Function.update_self _ _ _
  refine ⟨?_, ?_, hself.symm ▸ hown, hcallsself.symm ▸ hthread⟩
  · rw [activeCalls_setCalls, hsame]
    exact hbooked
  · intro t ht
    exact (Function.update_of_ne ht _ _).trans (congrFun hcalls t)

/-- A step after which the same calls are active. -/
theorem stepped_same {s' : DebugBroker Tid σ Src Msg Sub}
    {active : List (Frame σ Src Msg Sub Locals)} (hcalls : s'.calls = s.calls)
    (hbooked : Booked s'.book (activeCalls s))
    (hactive : active.map asCall = activeCalls s e.thread)
    (hthread : s.calls e.thread ≠ [] → ThreadStep P (s.calls e.thread) active) :
    Stepped P s (s'.setCalls e.thread active) e := by
  refine stepped_of hcalls ?_ (Or.inl hactive) hthread
  rw [hactive, Function.update_eq_self]
  exact hbooked

/-- A send: it is refused, and its handler goes on, or its call is active. -/
theorem stepped_sendMessage (h : Booked s.book (activeCalls s)) {source : Src} {message : Msg}
    (hsending : sending s e = some source)
    (hready : ∀ f fs, s.calls e.thread = f :: fs →
      ∃ next, f.code = .send source message next) :
    Stepped P s (s.sendMessage (debugBuild Tid Src) P e.thread source message) e := by
  unfold sendMessage
  dsimp only [debugBuild]
  cases hr : (checkRecursion e.thread source s.book).2 with
  | none =>
    refine stepped_same rfl (h.refused hr).2 (resume_call _ _) ?_
    intro hne
    obtain ⟨f, fs, hcalls⟩ := List.exists_cons_of_ne_nil hne
    obtain ⟨next, hcode⟩ := hready f fs hcalls
    rw [hcalls]
    simp only [resume, hcode]
    exact .refused hcode s.shared
  | some locals =>
    obtain ⟨hfresh, hbooked⟩ := h.entered hr
    refine stepped_of rfl hbooked (Or.inr (Or.inl ⟨(source, locals), hsending, rfl⟩)) ?_
    intro hne
    obtain ⟨f, fs, hcalls⟩ := List.exists_cons_of_ne_nil hne
    obtain ⟨next, hcode⟩ := hready f fs hcalls
    rw [activeCalls_sources, sources, hcalls] at hfresh
    rw [hcalls]
    exact .enter hcode hfresh locals

/-- The loop goes on, or its call returns. -/
theorem stepped_loopTurn (h : Booked s.book (activeCalls s))
    {f : Frame σ Src Msg Sub Locals} {fs : List (Frame σ Src Msg Sub Locals)}
    (hcalls : s.calls e.thread = f :: fs) (hcode : f.code = .done) :
    Stepped P s (s.loopTurn (debugBuild Tid Src) P e.thread f fs) e := by
  have hactive : activeCalls s e.thread = asCall f :: fs.map asCall := by
    rw [activeCalls, hcalls, List.map_cons]
  unfold loopTurn
  cases hsubs : f.curSubscribers with
  | nil =>
    have hresume := resume_call s.shared fs
    refine stepped_of rfl ?_ (Or.inr (Or.inr ⟨asCall f, hresume.symm ▸ hactive⟩)) ?_
    · rw [hresume]
      exact h.left hactive
    · intro _
      rw [hcalls]
      exact .leave hcode hsubs s.shared
  | cons subscriber curSubscribers =>
    dsimp only
    split
    · refine stepped_same rfl h hactive.symm ?_
      intro _
      rw [hcalls]
      exact .turn hcode hsubs _
    · refine stepped_same rfl h hactive.symm ?_
      intro _
      rw [hcalls]
      exact .turn hcode hsubs f.code

/-- **What a step does.** -/
theorem stepped (h : Booked s.book (activeCalls s))
    (hstep : step (debugBuild Tid Src) P s e = some u) : Stepped P s u e := by
  rcases step_cases hstep with ⟨source, message, hsending, hready, rfl⟩ |
    ⟨f, fs, update, next, hcalls, hcode, rfl⟩ | ⟨f, fs, hcalls, hcode, rfl⟩
  · exact stepped_sendMessage h hsending hready
  · refine stepped_same rfl h ?_ ?_
    · rw [activeCalls, hcalls]
      rfl
    · intro _
      rw [hcalls]
      exact .act hcode s.shared
  · exact stepped_loopTurn h hcalls hcode

/-- **The bookkeeping is right in every reachable state.** -/
theorem booked_of_run {es : List (BrokerEvent Tid Src Msg)} {s₀ : DebugBroker Tid σ Src Msg Sub}
    (h : Booked s₀.book (activeCalls s₀))
    (hrun : exec (step (debugBuild Tid Src) P) s₀ es = some s) : Booked s.book (activeCalls s) :=
  exec_invariant (fun s => Booked s.book (activeCalls s))
    (fun _ _ _ hs hstep => (stepped hs hstep).booked) h hrun

end DebugSteps

/-! ## Runs of the debug build -/

section DebugRuns

variable [DecidableEq Tid] [DecidableEq Src] {P : Subscribers σ Src Msg Sub}
  {s u : DebugBroker Tid σ Src Msg Sub} {e : BrokerEvent Tid Src Msg}
  {es : List (BrokerEvent Tid Src Msg)}

/-- A step leaves what is kept for the other threads. -/
theorem kept_others (hs : Booked s.book (activeCalls s))
    (hstep : step (debugBuild Tid Src) P s e = some u) {thread : Tid} (hne : thread ≠ e.thread) :
    kept u thread = kept s thread := by
  have h := stepped hs hstep
  refine kept_congr hs h.booked ?_
  rw [activeCalls, h.others thread hne, activeCalls]

/-- Sources that a thread has not sent for are not active on it. -/
theorem active_mem_of_step {S : Finset Src} {thread : Tid} (h : Stepped P s u e)
    (hmem : ∀ c ∈ activeCalls s thread, c.1 ∈ S) (hfrom : SendsFrom thread S s e) :
    ∀ c ∈ activeCalls u thread, c.1 ∈ S := by
  by_cases ht : thread = e.thread
  · subst ht
    rcases h.own with hsame | ⟨c, hsending, hcons⟩ | ⟨c, hcons⟩
    · rw [hsame]
      exact hmem
    · rw [hcons]
      exact List.forall_mem_cons.mpr ⟨hfrom rfl c.1 hsending, hmem⟩
    · rw [hcons] at hmem
      exact (List.forall_mem_cons.mp hmem).2
  · rw [activeCalls, h.others thread ht]
    exact hmem

/-- Calls that stay active while the thread does not return from the last of them. -/
theorem suffix_of_step {base : List (Call Src)} {thread : Tid} (h : Stepped P s u e)
    (hbase : base <:+ activeCalls s thread) (hlen : base.length ≤ (activeCalls u thread).length) :
    base <:+ activeCalls u thread := by
  by_cases ht : thread = e.thread
  · subst ht
    rcases h.own with hsame | ⟨c, -, hcons⟩ | ⟨c, hcons⟩
    · rw [hsame]
      exact hbase
    · rw [hcons]
      exact hbase.trans (List.suffix_cons c _)
    · rw [hcons] at hbase
      rcases List.suffix_cons_iff.mp hbase with heq | hsuffix
      · rw [heq, List.length_cons] at hlen
        omega
      · exact hsuffix
  · rw [activeCalls, h.others thread ht]
    exact hbase

/-- **On return everything is as before the call.** -/
theorem kept_of_return (hs : Booked s.book (activeCalls s)) {thread : Tid}
    (hrun : exec (step (debugBuild Tid Src) P) s es = some u)
    (hwithin : Along (step (debugBuild Tid Src) P)
      (fun r _ => (s.calls thread).length ≤ (r.calls thread).length) s es)
    (hreturn : (u.calls thread).length = (s.calls thread).length) :
    kept u thread = kept s thread := by
  obtain ⟨hu, hsuffix⟩ := exec_invariant_along
    (fun r => Booked r.book (activeCalls r) ∧
      ((activeCalls s thread).length ≤ (activeCalls r thread).length →
        activeCalls s thread <:+ activeCalls r thread))
    (fun r e t hr hlen hstep => by
      have h := stepped hr.1 hstep
      refine ⟨h.booked, suffix_of_step h (hr.2 ?_)⟩
      rw [length_activeCalls, length_activeCalls]
      exact hlen)
    ⟨hs, fun _ => List.suffix_refl _⟩ hwithin hrun
  have hlen : (activeCalls s thread).length = (activeCalls u thread).length := by
    rw [length_activeCalls, length_activeCalls, hreturn]
  exact kept_congr hs hu ((hsuffix hlen.le).eq_of_length hlen).symm

/-- **The nesting is no deeper than there are sources.** -/
theorem depth_le {S : Finset Src} {thread : Tid} (hs : Booked s.book (activeCalls s))
    (hmem : ∀ c ∈ activeCalls s thread, c.1 ∈ S)
    (hrun : exec (step (debugBuild Tid Src) P) s es = some u)
    (hfrom : Along (step (debugBuild Tid Src) P) (SendsFrom thread S) s es) :
    (u.calls thread).length ≤ S.card := by
  obtain ⟨hu, hmem⟩ := exec_invariant_along
    (fun r => Booked r.book (activeCalls r) ∧ ∀ c ∈ activeCalls r thread, c.1 ∈ S)
    (fun r e t hr hsends hstep =>
      ⟨(stepped hr.1 hstep).booked, active_mem_of_step (stepped hr.1 hstep) hr.2 hsends⟩)
    ⟨hs, hmem⟩ hfrom hrun
  refine length_le_card ?_ (hu.nodup thread)
  intro f hf
  exact hmem (asCall f) (List.mem_map_of_mem hf)

/-- **Each call returns**, if its thread sends for finitely many sources and goes on again and
again. -/
theorem returns {run : Nat → DebugBroker Tid σ Src Msg Sub}
    {schedule : Nat → BrokerEvent Tid Src Msg} {S : Finset Src} {thread : Tid}
    (hs : Booked (run 0).book (activeCalls (run 0)))
    (hmem : ∀ c ∈ activeCalls (run 0) thread, c.1 ∈ S)
    (hrun : ∀ i, step (debugBuild Tid Src) P (run i) (schedule i) = some (run (i + 1)))
    (hfrom : ∀ i, SendsFrom thread S (run i) (schedule i))
    (hfair : ∀ i, ∃ j, i ≤ j ∧ (schedule j).thread = thread) {i : Nat}
    (hactive : (run i).calls thread ≠ []) :
    ∃ j, i ≤ j ∧ ((run j).calls thread).length < ((run i).calls thread).length := by
  have hinv (j : Nat) : Booked (run j).book (activeCalls (run j)) ∧
      ∀ c ∈ activeCalls (run j) thread, c.1 ∈ S := by
    induction j with
    | zero => exact ⟨hs, hmem⟩
    | succ j ih =>
      have h := stepped ih.1 (hrun j)
      exact ⟨h.booked, active_mem_of_step h ih.2 (hfrom j)⟩
  have hsources (j : Nat) : ∀ f ∈ (run j).calls thread, f.source ∈ S :=
    fun f hf => (hinv j).2 (asCall f) (List.mem_map_of_mem hf)
  have hfalls (j : Nat) (ht : (schedule j).thread = thread)
      (hlen : ((run i).calls thread).length ≤ ((run j).calls thread).length) :
      ThreadStep P ((run j).calls thread) ((run (j + 1)).calls thread) ∧
        ∀ f ∈ (run (j + 1)).calls thread, f.source ∈ S := by
    have h := (stepped (hinv j).1 (hrun j)).threadStep
    rw [ht] at h
    refine ⟨h ?_, hsources (j + 1)⟩
    intro hnil
    rw [hnil, List.length_nil, Nat.le_zero, List.length_eq_zero_iff] at hlen
    exact hactive hlen
  have hends : Ends P S ((run i).calls thread) :=
    ends_calls ((run i).calls thread) (hsources i) ((hinv i).1.nodup thread)
  refine @eventually_of_acc _ _ (fun j => (run j).calls thread) _ i hends ?_ ?_
  · intro j _ hgoal
    by_cases ht : (schedule j).thread = thread
    · exact Or.inr (hfalls j ht (Nat.not_lt.mp hgoal))
    · exact Or.inl ((stepped (hinv j).1 (hrun j)).others thread (Ne.symm ht))
  · intro j _
    obtain ⟨k, hk, ht⟩ := hfair j
    refine ⟨k, hk, ?_⟩
    rcases Nat.lt_or_ge ((run k).calls thread).length ((run i).calls thread).length with hlt | hge
    · exact Or.inl hlt
    · exact Or.inr (hfalls k ht hge)

end DebugRuns

/-! ## Both builds -/

section Release

variable {β κ : Type}

/-- An active call without the bookkeeping. -/
def releaseCall (f : Frame σ Src Msg Sub κ) : Frame σ Src Msg Sub Unit :=
  { f with locals := () }

/-- The broker without the bookkeeping. -/
def release (s : MessageBroker Tid σ Src Msg Sub β κ) : MessageBroker Tid σ Src Msg Sub Unit Unit :=
  { s with book := (), calls := fun t => (s.calls t).map releaseCall }

theorem sending_release (s : MessageBroker Tid σ Src Msg Sub β κ)
    (e : BrokerEvent Tid Src Msg) : sending (release s) e = sending s e := by
  cases e with
  | call thread source message => rfl
  | run thread =>
    cases hcalls : s.calls thread with
    | nil => simp only [sending, release, hcalls, List.map_nil]
    | cons f fs => simp only [sending, release, hcalls, List.map_cons, releaseCall]

/-- Both builds agree on what sending again is. -/
theorem notAgain_release {s : MessageBroker Tid σ Src Msg Sub β κ}
    {e : BrokerEvent Tid Src Msg} : NotAgain (release s) e ↔ NotAgain s e := by
  unfold NotAgain sources
  rw [sending_release]
  simp only [release, List.map_map]
  rfl

theorem resume_release (shared : σ) (fs : List (Frame σ Src Msg Sub κ)) :
    (resume shared fs).map releaseCall = resume shared (fs.map releaseCall) := by
  cases fs with
  | nil => rfl
  | cons f fs =>
    cases hcode : f.code with
    | done | act _ _ | send _ _ _ => simp only [resume, releaseCall, hcode, List.map_cons]

variable [DecidableEq Tid]

theorem release_setCalls (s : MessageBroker Tid σ Src Msg Sub β κ) (thread : Tid)
    (active : List (Frame σ Src Msg Sub κ)) :
    release (s.setCalls thread active) =
      (release s).setCalls thread (active.map releaseCall) := by
  have hcalls : (fun t => (Function.update s.calls thread active t).map releaseCall) =
      Function.update (fun t => (s.calls t).map releaseCall) thread
        (active.map releaseCall) := by
    funext t
    by_cases ht : t = thread
    · subst ht
      rw [Function.update_self, Function.update_self]
    · rw [Function.update_of_ne ht, Function.update_of_ne ht]
  simp only [release, setCalls, hcalls]

variable [DecidableEq Src] {P : Subscribers σ Src Msg Sub}
  {s : DebugBroker Tid σ Src Msg Sub} {e : BrokerEvent Tid Src Msg}

/-- A send that is not refused is the same in both builds. -/
theorem release_sendMessage (h : Booked s.book (activeCalls s)) {thread : Tid} {source : Src}
    (hfresh : source ∉ sources s thread) (message : Msg) :
    release (s.sendMessage (debugBuild Tid Src) P thread source message) =
      (release s).sendMessage (ndebugBuild Tid Src) P thread source message := by
  unfold sendMessage
  dsimp only [debugBuild, ndebugBuild]
  cases hr : (checkRecursion thread source s.book).2 with
  | none =>
    refine absurd (h.refused hr).1 ?_
    rw [activeCalls_sources]
    exact hfresh
  | some locals =>
    dsimp only
    rw [release_setCalls]
    rfl

/-- The loop is the same in both builds. -/
theorem release_loopTurn (thread : Tid) (f : Frame σ Src Msg Sub Locals)
    (fs : List (Frame σ Src Msg Sub Locals)) :
    release (s.loopTurn (debugBuild Tid Src) P thread f fs) =
      (release s).loopTurn (ndebugBuild Tid Src) P thread (releaseCall f)
        (fs.map releaseCall) := by
  cases hsubs : f.curSubscribers with
  | nil =>
    simp only [loopTurn, releaseCall, hsubs]
    rw [release_setCalls, resume_release]
    rfl
  | cons subscriber curSubscribers =>
    simp only [loopTurn, releaseCall, hsubs]
    split <;> rw [release_setCalls] <;> rfl

/-- **A step that does not send again is the same in both builds.** -/
theorem release_step (h : Booked s.book (activeCalls s)) (hnot : NotAgain s e) :
    step (ndebugBuild Tid Src) P (release s) e =
      (step (debugBuild Tid Src) P s e).map release := by
  cases e with
  | call thread source message =>
    cases hcalls : s.calls thread with
    | nil =>
      have hnil : (release s).calls thread = [] := by simp only [release, hcalls, List.map_nil]
      have hfresh : source ∉ sources s thread := hnot source rfl
      simp only [step, hcalls, hnil, Option.map_some]
      rw [release_sendMessage h hfresh]
    | cons f fs =>
      have hcons : (release s).calls thread = releaseCall f :: fs.map releaseCall := by
        simp only [release, hcalls, List.map_cons]
      simp only [step, hcalls, hcons, Option.map_none]
  | run thread =>
    cases hcalls : s.calls thread with
    | nil =>
      have hnil : (release s).calls thread = [] := by simp only [release, hcalls, List.map_nil]
      simp only [step, hcalls, hnil, Option.map_none]
    | cons f fs =>
      have hcons : (release s).calls thread = releaseCall f :: fs.map releaseCall := by
        simp only [release, hcalls, List.map_cons]
      cases hcode : f.code with
      | done =>
        have hcode' : (releaseCall f).code = .done := hcode
        simp only [step, hcalls, hcons, hcode, hcode', Option.map_some]
        rw [release_loopTurn]
      | act update next =>
        have hcode' : (releaseCall f).code = .act update next := hcode
        simp only [step, hcalls, hcons, hcode, hcode', Option.map_some]
        rw [release_setCalls]
        rfl
      | send source message next =>
        have hcode' : (releaseCall f).code = .send source message next := hcode
        have hsending : sending s (.run thread) = some source := by
          simp only [sending, hcalls, hcode]
        have hfresh : source ∉ sources s thread := hnot source hsending
        simp only [step, hcalls, hcons, hcode, hcode', Option.map_some]
        rw [release_sendMessage h hfresh]

/-- **The runs of both builds are the same**, as long as no step sends again in the debug
build. -/
theorem release_exec (h : Booked s.book (activeCalls s)) {es : List (BrokerEvent Tid Src Msg)}
    (hnot : Along (step (debugBuild Tid Src) P) NotAgain s es) :
    exec (step (ndebugBuild Tid Src) P) (release s) es =
      (exec (step (debugBuild Tid Src) P) s es).map release := by
  induction es generalizing s with
  | nil => rfl
  | cons e es ih =>
    rw [exec, exec, release_step h hnot.1]
    cases hstep : step (debugBuild Tid Src) P s e with
    | none => rfl
    | some t => exact ih (stepped h hstep).booked (hnot.2 t hstep)

/-- No step sends again in one build, if none does in the other. -/
theorem along_release (h : Booked s.book (activeCalls s)) {es : List (BrokerEvent Tid Src Msg)}
    (hnot : Along (step (ndebugBuild Tid Src) P) NotAgain (release s) es) :
    Along (step (debugBuild Tid Src) P) NotAgain s es := by
  induction es generalizing s with
  | nil => trivial
  | cons e es ih =>
    have hhead := notAgain_release.mp hnot.1
    refine ⟨hhead, ?_⟩
    intro t hstep
    refine ih (stepped h hstep).booked (hnot.2 (release t) ?_)
    rw [release_step h hhead, hstep, Option.map_some]

end Release

/-! ## The debug build against the other one -/

section Conservative

variable [DecidableEq Tid] [DecidableEq Src]

/-- What the debug build comes to, on every schedule of the threads from a broker that nothing
was sent through. -/
structure Conservative (Tid : Type) [DecidableEq Tid] (P : Subscribers σ Src Msg Sub)
    (debug : DebugBroker Tid σ Src Msg Sub)
    (ndebug : MessageBroker Tid σ Src Msg Sub Unit Unit) : Prop where
  /-- A thread in a call can always go on. -/
  goes_on : ∀ es s thread, exec (step (debugBuild Tid Src) P) debug es = some s →
    s.calls thread ≠ [] → ∃ u, step (debugBuild Tid Src) P s (.run thread) = some u
  /-- Each call returns, if its thread goes on again and again and sends for finitely many
  sources. -/
  returns : ∀ (run : Nat → DebugBroker Tid σ Src Msg Sub)
    (schedule : Nat → BrokerEvent Tid Src Msg) (thread : Tid) (S : Finset Src), run 0 = debug →
    (∀ i, step (debugBuild Tid Src) P (run i) (schedule i) = some (run (i + 1))) →
    (∀ i, ∃ j, i ≤ j ∧ (schedule j).thread = thread) →
    (∀ i, SendsFrom thread S (run i) (schedule i)) → ∀ i, (run i).calls thread ≠ [] →
    ∃ j, i ≤ j ∧ ((run j).calls thread).length < ((run i).calls thread).length
  /-- No more calls are active on a thread than there are sources that it sends for. -/
  depth_le : ∀ es s thread (S : Finset Src),
    exec (step (debugBuild Tid Src) P) debug es = some s →
    Along (step (debugBuild Tid Src) P) (SendsFrom thread S) debug es →
    (s.calls thread).length ≤ S.card
  /-- When a thread is back to the calls that were active before, so is what is kept for it. -/
  kept_on_return : ∀ es fs s u thread,
    exec (step (debugBuild Tid Src) P) debug es = some s →
    exec (step (debugBuild Tid Src) P) s fs = some u →
    Along (step (debugBuild Tid Src) P)
      (fun r _ => (s.calls thread).length ≤ (r.calls thread).length) s fs →
    (u.calls thread).length = (s.calls thread).length → kept u thread = kept s thread
  /-- What is kept for a thread changes in its own steps only. -/
  kept_by_others : ∀ es s e u thread, exec (step (debugBuild Tid Src) P) debug es = some s →
    step (debugBuild Tid Src) P s e = some u → thread ≠ e.thread → kept u thread = kept s thread
  /-- Each entry points to the set of a call that is active on its thread. -/
  entry_active : ∀ es s thread o, exec (step (debugBuild Tid Src) P) debug es = some s →
    s.book.callers thread = some o → ∃ f ∈ s.calls thread, f.locals.newSenders = o
  /-- If no source sends again, both builds deliver the same. -/
  deliveries_eq : ∀ es, Along (step (debugBuild Tid Src) P) NotAgain debug es ∨
      Along (step (ndebugBuild Tid Src) P) NotAgain ndebug es →
    (exec (step (ndebugBuild Tid Src) P) ndebug es).map (fun s => (s.shared, s.deliveries)) =
      (exec (step (debugBuild Tid Src) P) debug es).map fun s => (s.shared, s.deliveries)

/-- **The debug build is a conservative refinement of the other one.** -/
theorem debug_conservative (P : Subscribers σ Src Msg Sub) (shared : σ) :
    Conservative Tid P (init (Callers.empty Tid Src) shared) (init () shared) where
  goes_on := fun _ _ _ _ hne => exists_step hne
  returns := by
    intro run schedule thread S hstart hrun hfair hfrom i hactive
    refine returns ?_ ?_ hrun hfrom hfair hactive
    · rw [hstart]
      exact booked_init shared
    · rw [hstart]
      exact List.forall_mem_nil _
  depth_le := by
    intro es s thread S hrun hfrom
    exact depth_le (booked_init shared) (List.forall_mem_nil _) hrun hfrom
  kept_on_return := by
    intro es fs s u thread hs hu hwithin hreturn
    exact kept_of_return (booked_of_run (booked_init shared) hs) hu hwithin hreturn
  kept_by_others := by
    intro es s e u thread hs hstep hne
    exact kept_others (booked_of_run (booked_init shared) hs) hstep hne
  entry_active := by
    intro es s thread o hs ho
    have hreg := (booked_of_run (booked_init shared) hs).registered thread
    obtain ⟨c, hc, hset⟩ := exists_of_owner (hreg.callers_eq.symm.trans ho)
    obtain ⟨f, hf, rfl⟩ := List.mem_map.mp hc
    exact ⟨f, hf, hset⟩
  deliveries_eq := by
    intro es hnot
    have hdebug : Along (step (debugBuild Tid Src) P) NotAgain
        (init (Callers.empty Tid Src) shared) es := by
      rcases hnot with hdebug | hndebug
      · exact hdebug
      · exact along_release (booked_init shared) hndebug
    have hsame : init () shared = release (init (Callers.empty Tid Src) shared :
      DebugBroker Tid σ Src Msg Sub) := rfl
    rw [hsame, release_exec (booked_init shared) hdebug, Option.map_map]
    rfl

end Conservative

end UartBridge.Broker

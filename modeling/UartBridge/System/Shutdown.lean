import UartBridge.Client.Workers
import UartBridge.Lib.Run

/-!
# The end of the client, over every interleaving

`main` and its threads take steps in any order, and any thread may ask for a shutdown at any
time.

* `Moves` — what a step of the client can be;
* `Reported` — how far the message of the first thread that asked has come;
* `Fits` — the stage of a worker in each phase of `main`;
* `ends_in_order` — who is told to stop, and collected, when;
* `says_what_happened` — what `main` logs when it leaves its loop;
* `shutdown_completes` — once a shutdown is requested, `main` returns.
-/

namespace UartBridge.Client.ClientRun

open EventRun WorkerName

variable {ports : List PortSetup} {s t : ClientRun} {e : Event}

/-! ## One step -/

/-- The steps of the client. -/
inductive Moves (ports : List PortSetup) (s : ClientRun) : Event → ClientRun → Prop
  | started {name : WorkerName} {left : List WorkerName}
      (main : s.main = .starting (name :: left)) :
      Moves ports s (.startup none)
        { s.update name (s.worker name).startup with main := .starting left }
  | notStarted {name : WorkerName} {left : List WorkerName} (ec : Int)
      (main : s.main = .starting (name :: left)) :
      Moves ports s (.startup (some ec)) { s.sendFromMain ec with main := .starting left }
  | allStarted (main : s.main = .starting []) :
      Moves ports s (.startup none) { s with main := .waiting }
  | woken (result : WaitResult) (pending : Signal → Bool) (main : s.main = .waiting) :
      Moves ports s (.wait result) { s with pending := pending, main := .checking }
  | stopped (result : WaitResult) (pending : Signal → Bool) (verdict : Verdict)
      (main : s.main = .waiting) (notAsked : verdict ≠ .workerFailed ∧ verdict ≠ .gracefully) :
      Moves ports s (.wait result) ({ s with pending := pending }.leave ports verdict)
  | asked (main : s.main = .checking) (requested : s.handler.shutdownRequested = true) :
      Moves ports s .check { s with main := .reading }
  | notAsked (main : s.main = .checking) (requested : s.handler.shutdownRequested = false) :
      Moves ports s .check { s with main := .waiting }
  | failed (main : s.main = .reading) (ec : s.handler.ec ≠ 0) :
      Moves ports s .read (s.leave ports .workerFailed)
  | gracefully (main : s.main = .reading) (ec : s.handler.ec = 0) :
      Moves ports s .read (s.leave ports .gracefully)
  | told {name : WorkerName} {left : List WorkerName} (main : s.main = .requesting (name :: left)) :
      Moves ports s .request
        { s.update name (s.worker name).requestShutdown with main := .requesting left }
  | allTold (main : s.main = .requesting []) :
      Moves ports s .request { s with main := .stopping (stops ports) }
  | awaited {name : WorkerName} {left : List WorkerName} (main : s.main = .stopping (name :: left))
      (workerStarted : (s.worker name).workerStarted = true) :
      Moves ports s .shutdown
        { s.update name (s.worker name).onShutdown with main := .joining name left }
  | passed {name : WorkerName} {left : List WorkerName} (main : s.main = .stopping (name :: left))
      (workerStarted : (s.worker name).workerStarted = false) :
      Moves ports s .shutdown { s with main := .stopping left }
  | returned (main : s.main = .stopping []) :
      Moves ports s .shutdown { s with main := .returned }
  | joined {name : WorkerName} {left : List WorkerName} (main : s.main = .joining name left)
      (finished : (s.worker name).thread = .finished) :
      Moves ports s .join
        { s.update name (s.worker name).collected with main := .stopping left }
  | repeated (name : WorkerName) (ec : Int) (requested : s.handler.shutdownRequested = true) :
      Moves ports s (.send name ec) s
  | claimed (name : WorkerName) (ec : Int) (requested : s.handler.shutdownRequested = false) :
      Moves ports s (.send name ec)
        { s with
          handler := { s.handler with shutdownRequested := true }
          writer := some (name, .store ec), first := some ec }
  | stored (name : WorkerName) (ec : Int) (writer : s.writer = some (name, .store ec)) :
      Moves ports s .write
        { s with handler := { s.handler with ec := ec }, writer := some (name, .kill) }
  | signalled (name : WorkerName) (writer : s.writer = some (name, .kill)) :
      Moves ports s .write { s.raise .SIGUSR2 with writer := none, kills := s.kills + 1 }
  | finished (name : WorkerName) (running : (s.worker name).thread = .running) :
      Moves ports s (.finish name) (s.update name (s.worker name).finish)
  | arrived (signal : Signal) : Moves ports s (.arrive signal) (s.raise signal)

/-- After `sigtimedwait`, `main` looks at the handler, or leaves the loop. -/
theorem moves_of_woken {result : WaitResult} (main : s.main = .waiting)
    (h : s.woken ports result = some t) : Moves ports s (.wait result) t := by
  cases result with
  | nothing =>
    rw [woken, Option.some.injEq] at h
    exact h ▸ .woken .nothing s.pending main
  | failed =>
    rw [woken, Option.some.injEq] at h
    exact h ▸ .stopped .failed s.pending .waitFailed main (by decide)
  | signal signal =>
    simp only [woken] at h
    split at h
    · cases signal with
      | SIGUSR2 =>
        rw [Option.some.injEq] at h
        exact h ▸ .woken _ _ main
      | SIGHUP =>
        rw [Option.some.injEq] at h
        exact h ▸ .stopped _ _ (.signal .SIGHUP) main (by decide)
      | SIGUSR1 =>
        rw [Option.some.injEq] at h
        exact h ▸ .stopped _ _ (.signal .SIGUSR1) main (by decide)
      | SIGPIPE =>
        rw [Option.some.injEq] at h
        exact h ▸ .stopped _ _ (.signal .SIGPIPE) main (by decide)
      | SIGTERM =>
        rw [Option.some.injEq] at h
        exact h ▸ .stopped _ _ (.signal .SIGTERM) main (by decide)
    · cases h

/-- Each step is one of these. -/
theorem moves (h : step ports s e = some t) : Moves ports s e t := by
  cases e with
  | startup failure =>
    simp only [step] at h
    split at h
    case h_1 name left main =>
      exact Option.some.inj h ▸ .started main
    case h_2 name left ec main =>
      split at h
      · exact Option.some.inj h ▸ .notStarted ec main
      · cases h
    case h_3 main => exact Option.some.inj h ▸ .allStarted main
    case h_4 => cases h
  | wait result =>
    simp only [step] at h
    split at h
    case h_1 main => exact moves_of_woken main h
    case h_2 => cases h
  | check =>
    simp only [step] at h
    split at h
    case h_1 main =>
      cases requested : s.handler.shutdownRequested with
      | true =>
        simp only [requested, if_true, Option.some.injEq] at h
        exact h ▸ .asked main requested
      | false =>
        simp only [requested, Bool.false_eq_true, if_false, Option.some.injEq] at h
        exact h ▸ .notAsked main requested
    case h_2 => cases h
  | read =>
    simp only [step] at h
    split at h
    case h_1 main =>
      by_cases ec : s.handler.ec = 0
      · simp only [ec, ne_eq, not_true_eq_false, if_false, Option.some.injEq] at h
        exact h ▸ .gracefully main ec
      · simp only [ne_eq, ec, not_false_eq_true, if_true, Option.some.injEq] at h
        exact h ▸ .failed main ec
    case h_2 => cases h
  | request =>
    simp only [step] at h
    split at h
    case h_1 name left main => exact Option.some.inj h ▸ .told main
    case h_2 main => exact Option.some.inj h ▸ .allTold main
    case h_3 => cases h
  | shutdown =>
    simp only [step] at h
    split at h
    case h_1 name left main =>
      split at h
      next workerStarted => exact Option.some.inj h ▸ .awaited main workerStarted
      next workerStarted =>
        exact Option.some.inj h ▸ .passed main (Bool.eq_false_iff.mpr workerStarted)
    case h_2 main => exact Option.some.inj h ▸ .returned main
    case h_3 => cases h
  | join =>
    simp only [step] at h
    split at h
    case h_1 name left main =>
      split at h
      next finished => exact Option.some.inj h ▸ .joined main finished
      next => cases h
    case h_2 => cases h
  | send name ec =>
    simp only [step] at h
    split at h
    · split at h
      next requested => exact Option.some.inj h ▸ .repeated name ec requested
      next requested =>
        exact Option.some.inj h ▸ .claimed name ec (Bool.eq_false_iff.mpr requested)
    · cases h
  | write =>
    simp only [step] at h
    split at h
    case h_1 name ec writer => exact Option.some.inj h ▸ .stored name ec writer
    case h_2 name writer => exact Option.some.inj h ▸ .signalled name writer
    case h_3 => cases h
  | finish name =>
    simp only [step] at h
    split at h
    next running => exact Option.some.inj h ▸ .finished name running.1
    next => cases h
  | arrive signal => exact Option.some.inj h ▸ .arrived signal

/-! ## The message of the first thread that asks -/

/-- How far the message has come: the handler, the thread in it, the `ec` of the message, and the
signals sent for it. -/
inductive Reported : ShutdownHandler → Option (WorkerName × HandlerStage) → Option Int → Nat → Prop
  | quiet : Reported .create none none 0
  | claimed (name : WorkerName) (ec : Int) :
      Reported { shutdownRequested := true, ec := 0 } (some (name, .store ec)) (some ec) 0
  | stored (name : WorkerName) (ec : Int) :
      Reported { shutdownRequested := true, ec := ec } (some (name, .kill)) (some ec) 0
  | signalled (ec : Int) : Reported { shutdownRequested := true, ec := ec } none (some ec) 1

/-- A message of `main` goes through the handler at once. -/
theorem reported_sendFromMain (h : Reported s.handler s.writer s.first s.kills) (ec : Int) :
    Reported (s.sendFromMain ec).handler (s.sendFromMain ec).writer (s.sendFromMain ec).first
      (s.sendFromMain ec).kills := by
  unfold sendFromMain
  split
  next => exact h
  next quiet =>
    show Reported { shutdownRequested := true, ec := ec } s.writer (some ec) (s.kills + 1)
    generalize s.handler = handler, s.writer = writer, s.first = first, s.kills = kills
      at h quiet ⊢
    cases h with
    | quiet => exact .signalled ec
    | claimed | stored | signalled => exact absurd rfl quiet

theorem reported_of_moves (h : Reported s.handler s.writer s.first s.kills)
    (hmoves : Moves ports s e t) : Reported t.handler t.writer t.first t.kills := by
  cases hmoves with
  | started | allStarted | woken | stopped | asked | notAsked | failed | gracefully | told | allTold
  | awaited | passed | returned | joined | repeated | finished | arrived => exact h
  | notStarted ec => exact reported_sendFromMain h ec
  | claimed name ec requested =>
    generalize s.handler = handler, s.writer = writer, s.first = first, s.kills = kills
      at h requested ⊢
    cases h with
    | quiet => exact .claimed name ec
    | claimed | stored | signalled => cases requested
  | stored name ec writer =>
    generalize s.handler = handler, s.writer = writer, s.first = first, s.kills = kills
      at h writer ⊢
    cases h with
    | claimed name' ec' =>
      cases writer
      exact .stored name ec
    | quiet | stored | signalled => cases writer
  | signalled name writer =>
    show Reported s.handler none s.first (s.kills + 1)
    generalize s.handler = handler, s.writer = writer, s.first = first, s.kills = kills
      at h writer ⊢
    cases h with
    | stored name' ec => exact .signalled ec
    | quiet | claimed | signalled => cases writer

/-! ## The stages of the workers -/

/-- Not started; or started, not collected yet, and told to stop so often. -/
def Up (told : Nat) (w : WorkerBase) : Prop :=
  w = .create ∨
    w.workerStarted = true ∧ (w.thread = .running ∨ w.thread = .finished) ∧ w.told = told

/-- Not started; or told twice, and collected. -/
def Collected (w : WorkerBase) : Prop :=
  w = .create ∨ w = { workerStarted := false, thread := .joined, told := 2 }

/-- The stage of a worker in each phase of `main`. -/
def Fits (name : WorkerName) (w : WorkerBase) : MainPhase → Prop
  | .starting _ | .waiting | .checking | .reading => Up 0 w
  | .requesting left => if name ∈ left then Up 0 w else Up 1 w
  | .stopping left => if name ∈ left then Up 1 w else Collected w
  | .joining current left =>
    if name = current then w.workerStarted = true ∧ Up 2 w
    else if name ∈ left then Up 1 w else Collected w
  | .returned => Collected w

/-- The workers still to deal with are the last ones of their order. -/
def Remaining (ports : List PortSetup) : MainPhase → Prop
  | .starting left => left <:+ starts ports
  | .requesting left | .stopping left => left <:+ stops ports
  | .joining current left => current :: left <:+ stops ports
  | .waiting | .checking | .reading | .returned => True

structure Staged (ports : List PortSetup) (s : ClientRun) : Prop where
  fits : ∀ name, Fits name (s.worker name) s.main
  remaining : Remaining ports s.main
  known : ∀ name, name ∉ stops ports → s.worker name = .create

theorem Up.startup {w : WorkerBase} (h : Up 0 w) : Up 0 w.startup := by
  rcases h with rfl | ⟨hstarted, hthread, htold⟩
  · exact Or.inr ⟨rfl, Or.inl rfl, rfl⟩
  · rw [WorkerBase.startup, if_pos hstarted]
    exact Or.inr ⟨hstarted, hthread, htold⟩

theorem Up.requestShutdown {w : WorkerBase} (h : Up 0 w) : Up 1 w.requestShutdown := by
  rcases h with rfl | ⟨hstarted, hthread, htold⟩
  · exact Or.inl rfl
  · rw [WorkerBase.requestShutdown, hstarted]
    exact Or.inr ⟨hstarted, hthread, congrArg (· + 1) htold⟩

theorem Up.onShutdown {w : WorkerBase} (h : Up 1 w) (hstarted : w.workerStarted = true) :
    w.onShutdown.workerStarted = true ∧ Up 2 w.onShutdown := by
  rcases h with rfl | ⟨_, hthread, htold⟩
  · cases hstarted
  · exact ⟨hstarted, Or.inr ⟨hstarted, hthread, congrArg (· + 1) htold⟩⟩

theorem Up.eq_create {told : Nat} {w : WorkerBase} (h : Up told w)
    (hstarted : w.workerStarted = false) : w = .create := by
  rcases h with rfl | ⟨htrue, _, _⟩
  · rfl
  · cases hstarted.symm.trans htrue

theorem Up.of_started {told : Nat} {w : WorkerBase} (h : Up told w)
    (hstarted : w.workerStarted = true) :
    (w.thread = .running ∨ w.thread = .finished) ∧ w.told = told := by
  rcases h with rfl | ⟨_, hthread, htold⟩
  · cases hstarted
  · exact ⟨hthread, htold⟩

theorem Up.collected {w : WorkerBase} (h : Up 2 w) (hstarted : w.workerStarted = true) :
    Collected w.collected := by
  rcases h with rfl | ⟨_, _, htold⟩
  · cases hstarted
  · refine Or.inr ?_
    rw [WorkerBase.collected, htold]

theorem Up.finish {told : Nat} {w : WorkerBase} (h : Up told w) (hrunning : w.thread = .running) :
    Up told w.finish := by
  rcases h with rfl | ⟨hstarted, _, htold⟩
  · cases hrunning
  · exact Or.inr ⟨hstarted, Or.inr rfl, htold⟩

theorem Collected.thread_ne {w : WorkerBase} (h : Collected w) : w.thread ≠ .running := by
  rcases h with rfl | rfl
  · decide
  · decide

/-- A thread may end in any phase. -/
theorem Fits.finish {name : WorkerName} {w : WorkerBase} {phase : MainPhase}
    (h : Fits name w phase) (hrunning : w.thread = .running) : Fits name w.finish phase := by
  have hnot {p : Prop} (hw : Collected w) : p := absurd hrunning hw.thread_ne
  cases phase with
  | starting left => exact Up.finish h hrunning
  | waiting | checking | reading => exact Up.finish h hrunning
  | requesting left =>
    simp only [Fits] at h ⊢
    split at h
    next hmem => exact if_pos hmem ▸ h.finish hrunning
    next hmem => exact if_neg hmem ▸ h.finish hrunning
  | stopping left =>
    simp only [Fits] at h ⊢
    split at h
    next hmem => exact if_pos hmem ▸ h.finish hrunning
    next hmem => exact hnot h
  | joining current left =>
    simp only [Fits] at h ⊢
    split at h
    next hname => exact if_pos hname ▸ ⟨h.1, h.2.finish hrunning⟩
    next hname =>
      rw [if_neg hname]
      split at h
      next hmem => exact if_pos hmem ▸ h.finish hrunning
      next hmem => exact hnot h
  | returned => exact hnot h

/-- The same workers are started and stopped. -/
theorem mem_stops_iff {name : WorkerName} : name ∈ stops ports ↔ name ∈ starts ports := by
  simp only [stops, starts, List.mem_append, List.mem_cons]
  tauto

/-- No worker is stopped twice. -/
theorem nodup_stops : (stops ports).Nodup := by
  have hports : (portWorkers ports).Nodup :=
    List.nodup_range.map fun _ _ h => WorkerName.portWorker.inj h
  have htcp : (tcpListeners ports).Nodup :=
    (List.nodup_range.filter _).map fun _ _ h => WorkerName.tcpListener.inj h
  have hpty : (ptyListeners ports).Nodup :=
    (List.nodup_range.filter _).map fun _ _ h => WorkerName.ptyListener.inj h
  have hthree : [pollTimer, udpTransport, tcpTransport].Nodup := by decide
  refine htcp.append (hpty.append (hthree.append hports ?_) ?_) ?_
  · intro name hname hport
    obtain ⟨i, _, rfl⟩ := List.mem_map.mp hport
    simp at hname
  · intro name hname hrest
    obtain ⟨i, _, rfl⟩ := List.mem_map.mp hname
    simp [portWorkers] at hrest
  · intro name hname hrest
    obtain ⟨i, _, rfl⟩ := List.mem_map.mp hname
    simp [portWorkers, ptyListeners] at hrest

/-- `main` deals with one worker. -/
theorem Staged.update (h : Staged ports s) {name : WorkerName} {w : WorkerBase} {phase : MainPhase}
    (hknown : name ∈ stops ports) (hname : Fits name w phase)
    (hothers : ∀ other, other ≠ name → Fits other (s.worker other) s.main →
      Fits other (s.worker other) phase)
    (hremaining : Remaining ports phase) : Staged ports { s.update name w with main := phase } where
  fits other := by
    show Fits other (if other = name then w else s.worker other) phase
    by_cases heq : other = name
    · rw [if_pos heq, heq]
      exact hname
    · rw [if_neg heq]
      exact hothers other heq (h.fits other)
  remaining := hremaining
  known other hother := by
    show (if other = name then w else s.worker other) = .create
    have hne : other ≠ name := by
      rintro rfl
      exact hother hknown
    rw [if_neg hne]
    exact h.known other hother

/-- `main` goes on to another phase. -/
theorem Staged.goTo (h : Staged ports s) {phase : MainPhase}
    (hfits : ∀ name, Fits name (s.worker name) s.main → Fits name (s.worker name) phase)
    (hremaining : Remaining ports phase) : Staged ports { s with main := phase } where
  fits name := hfits name (h.fits name)
  remaining := hremaining
  known := h.known

/-- `main` leaves its loop, and goes through the workers from the first one. -/
theorem Staged.leave (h : Staged ports s) (hmain : s.main = .waiting ∨ s.main = .reading)
    (verdict : Verdict) : Staged ports (s.leave ports verdict) where
  fits name := by
    have hup : Up 0 (s.worker name) := by
      have hfits := h.fits name
      rcases hmain with hmain | hmain
      · rwa [hmain] at hfits
      · rwa [hmain] at hfits
    show if name ∈ stops ports then Up 0 (s.worker name) else Up 1 (s.worker name)
    split
    next => exact hup
    next hmem => exact Or.inl (h.known name hmem)
  remaining := List.suffix_rfl
  known := h.known

/-- Taking the first one off, the others keep their place. -/
theorem mem_cons_of_ne {name other : WorkerName} {left : List WorkerName} (hne : other ≠ name) :
    other ∈ name :: left ↔ other ∈ left := by
  rw [List.mem_cons, or_iff_right hne]

/-- The next worker to stop is one of them, and is not among the rest. -/
theorem next_of_suffix {name : WorkerName} {left : List WorkerName}
    (h : name :: left <:+ stops ports) : name ∈ stops ports ∧ name ∉ left ∧ left <:+ stops ports :=
  ⟨h.subset List.mem_cons_self, (nodup_stops.sublist h.sublist).notMem,
    (List.suffix_cons name left).trans h⟩

/-- The next worker is told to stop. -/
theorem Staged.told (h : Staged ports s) {name : WorkerName} {left : List WorkerName}
    (main : s.main = .requesting (name :: left)) :
    Staged ports
      { s.update name (s.worker name).requestShutdown with main := .requesting left } := by
  have hremaining := h.remaining
  rw [main] at hremaining
  obtain ⟨hmem, hnot, hsuffix⟩ := next_of_suffix hremaining
  have hname : Up 0 (s.worker name) := by
    have hname := h.fits name
    rw [main] at hname
    exact (if_pos List.mem_cons_self).mp hname
  refine h.update hmem ((if_neg hnot).mpr hname.requestShutdown) ?_ hsuffix
  intro other hne hother
  rw [main] at hother
  simpa only [Fits, mem_cons_of_ne hne] using hother

/-- The next worker is told once more, and `main` waits for its thread. -/
theorem Staged.awaited (h : Staged ports s) {name : WorkerName} {left : List WorkerName}
    (main : s.main = .stopping (name :: left))
    (workerStarted : (s.worker name).workerStarted = true) :
    Staged ports
      { s.update name (s.worker name).onShutdown with main := .joining name left } := by
  have hremaining := h.remaining
  rw [main] at hremaining
  obtain ⟨hmem, hnot, hsuffix⟩ := next_of_suffix hremaining
  have hname : Up 1 (s.worker name) := by
    have hname := h.fits name
    rw [main] at hname
    exact (if_pos List.mem_cons_self).mp hname
  refine h.update hmem ((if_pos rfl).mpr (hname.onShutdown workerStarted)) ?_ hremaining
  intro other hne hother
  rw [main] at hother
  simpa only [Fits, mem_cons_of_ne hne, if_neg hne] using hother

/-- The next worker was never started. -/
theorem Staged.passed (h : Staged ports s) {name : WorkerName} {left : List WorkerName}
    (main : s.main = .stopping (name :: left))
    (workerStarted : (s.worker name).workerStarted = false) :
    Staged ports { s with main := .stopping left } := by
  have hremaining := h.remaining
  rw [main] at hremaining
  obtain ⟨-, hnot, hsuffix⟩ := next_of_suffix hremaining
  refine h.goTo ?_ hsuffix
  intro other hother
  rw [main] at hother
  by_cases hne : other = name
  · subst hne
    have hup : Up 1 (s.worker other) := (if_pos List.mem_cons_self).mp hother
    exact (if_neg hnot).mpr (Or.inl (hup.eq_create workerStarted))
  · simpa only [Fits, mem_cons_of_ne hne] using hother

/-- The thread that `main` waits for is collected. -/
theorem Staged.joined (h : Staged ports s) {name : WorkerName} {left : List WorkerName}
    (main : s.main = .joining name left) :
    Staged ports { s.update name (s.worker name).collected with main := .stopping left } := by
  have hremaining := h.remaining
  rw [main] at hremaining
  obtain ⟨hmem, hnot, hsuffix⟩ := next_of_suffix hremaining
  have hname := h.fits name
  rw [main] at hname
  obtain ⟨hstarted, hup⟩ := (if_pos rfl).mp hname
  refine h.update hmem ((if_neg hnot).mpr (hup.collected hstarted)) ?_ hsuffix
  intro other hne hother
  rw [main] at hother
  simpa only [Fits, if_neg hne] using hother

/-- **What a step of the client keeps.** -/
theorem staged_of_moves (h : Staged ports s) (hmoves : Moves ports s e t) : Staged ports t := by
  have hfits (name : WorkerName) := h.fits name
  have hremaining := h.remaining
  cases hmoves with
  | @started name left main =>
    rw [main] at hremaining hfits
    refine h.update ?_ (hfits name).startup ?_ ((List.suffix_cons name left).trans hremaining)
    · exact mem_stops_iff.mpr (hremaining.subset List.mem_cons_self)
    · intro other _ _
      exact hfits other
  | @notStarted name left ec main =>
    rw [main] at hremaining hfits
    have hsame : (s.sendFromMain ec).worker = s.worker := by
      unfold sendFromMain
      split
      next => rfl
      next => rfl
    refine ⟨?_, (List.suffix_cons name left).trans hremaining, ?_⟩
    · intro other
      show Up 0 ((s.sendFromMain ec).worker other)
      rw [hsame]
      exact hfits other
    · intro other hother
      show (s.sendFromMain ec).worker other = .create
      rw [hsame]
      exact h.known other hother
  | allStarted main =>
    refine h.goTo ?_ trivial
    intro name hname
    rwa [main] at hname
  | woken result pending main =>
    rw [main] at hfits
    exact ⟨hfits, trivial, h.known⟩
  | stopped result pending verdict main _ =>
    have h' : Staged ports { s with pending := pending } := ⟨h.fits, h.remaining, h.known⟩
    exact h'.leave (Or.inl main) verdict
  | asked main _ | notAsked main _ =>
    refine h.goTo ?_ trivial
    intro name hname
    rwa [main] at hname
  | failed main _ => exact h.leave (Or.inr main) .workerFailed
  | gracefully main _ => exact h.leave (Or.inr main) .gracefully
  | told main => exact h.told main
  | allTold main =>
    refine h.goTo ?_ List.suffix_rfl
    intro name hname
    rw [main] at hname
    simp only [Fits, List.not_mem_nil, if_false] at hname ⊢
    split
    next => exact hname
    next hmem => exact Or.inl (h.known name hmem)
  | awaited main workerStarted => exact h.awaited main workerStarted
  | passed main workerStarted => exact h.passed main workerStarted
  | returned main =>
    refine h.goTo ?_ trivial
    intro name hname
    rw [main] at hname
    simpa only [Fits, List.not_mem_nil, if_false] using hname
  | joined main _ => exact h.joined main
  | repeated => exact h
  | claimed | stored | signalled | arrived => exact ⟨h.fits, h.remaining, h.known⟩
  | finished name running =>
    have hmem : name ∈ stops ports := by
      by_contra hmem
      rw [h.known name hmem] at running
      cases running
    exact h.update hmem ((hfits name).finish running) (fun _ _ hother => hother) hremaining

/-! ## Who is told to stop, and collected, when -/

/-- The end of a worker, and who comes before it. -/
structure InOrder (ports : List PortSetup) (s : ClientRun) : Prop where
  /-- Nobody is told to stop before `main` has left its loop. -/
  untold : s.verdict = none → ∀ name, (s.worker name).told = 0
  /-- A worker is told to stop after those that come before it in `stops`. -/
  told_after : ∀ first second, [first, second].Sublist (stops ports) →
    0 < (s.worker second).told → s.worker first ≠ .create → 0 < (s.worker first).told
  /-- Nobody is collected before everybody is told to stop. -/
  told_all : ∀ name other, (s.worker name).thread = .joined → s.worker other ≠ .create →
    0 < (s.worker other).told
  /-- A worker is collected after those that come before it in `stops`. -/
  joined_after : ∀ first second, [first, second].Sublist (stops ports) →
    (s.worker second).thread = .joined → s.worker first ≠ .create →
      (s.worker first).thread = .joined
  /-- `main` returns when each worker that was started is collected. -/
  all_collected : s.main = .returned → ∀ name, Collected (s.worker name)

/-- While `main` is in its loop, there is no verdict; and then there is one. -/
def Judging (s : ClientRun) : Prop :=
  match s.main with
  | .starting _ | .waiting | .checking | .reading => s.verdict = none
  | .requesting _ | .stopping _ | .joining _ _ | .returned => s.verdict ≠ none

theorem judging_of_moves (h : Judging s) (hmoves : Moves ports s e t) : Judging t := by
  cases hmoves with
  | started main | allStarted main | woken _ _ main | asked main | notAsked main | told main
  | allTold main | awaited main | passed main | returned main | joined main =>
    unfold Judging at h ⊢
    rw [main] at h
    exact h
  | notStarted ec main =>
    have hsame : (s.sendFromMain ec).verdict = s.verdict := by
      unfold sendFromMain
      split
      next => rfl
      next => rfl
    unfold Judging at h ⊢
    rw [main] at h
    exact hsame.trans h
  | stopped | failed | gracefully => exact Option.some_ne_none _
  | repeated | claimed | stored | signalled | finished | arrived => exact h

/-- Of two, the first is not among the last ones of a list without the second. -/
theorem not_mem_of_sublist {first second : WorkerName} {left : List WorkerName}
    (horder : [first, second].Sublist (stops ports)) (hleft : left <:+ stops ports)
    (hsecond : second ∉ left) : first ∉ left := by
  intro hfirst
  obtain ⟨done, hdone⟩ := hleft
  have hnodup : (done ++ left).Nodup := hdone ▸ nodup_stops
  rw [← hdone, List.sublist_append_iff] at horder
  obtain ⟨l₁, l₂, heq, hl₁, hl₂⟩ := horder
  cases l₁ with
  | nil =>
    rw [List.nil_append] at heq
    exact hsecond (hl₂.subset (heq ▸ List.mem_cons_of_mem first List.mem_cons_self))
  | cons head rest =>
    obtain ⟨rfl, _⟩ := List.cons.inj heq
    exact List.disjoint_of_nodup_append hnodup (hl₁.subset List.mem_cons_self) hfirst

theorem Up.told_pos {told : Nat} {w : WorkerBase} (h : Up (told + 1) w) (hne : w ≠ .create) :
    0 < w.told := by
  rcases h with rfl | ⟨_, _, htold⟩
  · exact absurd rfl hne
  · exact htold ▸ Nat.succ_pos told

theorem Up.told_zero {w : WorkerBase} (h : Up 0 w) : w.told = 0 := by
  rcases h with rfl | ⟨_, _, htold⟩
  · rfl
  · exact htold

theorem Up.thread_ne {told : Nat} {w : WorkerBase} (h : Up told w) : w.thread ≠ .joined := by
  rcases h with rfl | ⟨_, hthread | hthread, _⟩
  · decide
  · exact hthread ▸ by decide
  · exact hthread ▸ by decide

theorem Collected.told_pos {w : WorkerBase} (h : Collected w) (hne : w ≠ .create) :
    0 < w.told ∧ w.thread = .joined := by
  rcases h with rfl | rfl
  · exact absurd rfl hne
  · exact ⟨Nat.succ_pos 1, rfl⟩

/-- Everybody has been told to stop. -/
def Stopping : MainPhase → Prop
  | .stopping _ | .joining _ _ | .returned => True
  | .starting _ | .waiting | .checking | .reading | .requesting _ => False

theorem Fits.told_pos {name : WorkerName} {w : WorkerBase} {phase : MainPhase}
    (h : Fits name w phase) (hphase : Stopping phase) (hne : w ≠ .create) : 0 < w.told := by
  cases phase with
  | starting | waiting | checking | reading | requesting => cases hphase
  | stopping left =>
    simp only [Fits] at h
    split at h
    next => exact h.told_pos hne
    next => exact (h.told_pos hne).1
  | joining current left =>
    simp only [Fits] at h
    split at h
    next => exact h.2.told_pos hne
    next =>
      split at h
      next => exact h.told_pos hne
      next => exact (h.told_pos hne).1
  | returned => exact (Collected.told_pos h hne).1

theorem Fits.thread_ne {name : WorkerName} {w : WorkerBase} {phase : MainPhase}
    (h : Fits name w phase) (hphase : ¬ Stopping phase) : w.thread ≠ .joined := by
  cases phase with
  | starting | waiting | checking | reading => exact Up.thread_ne h
  | requesting left =>
    simp only [Fits] at h
    split at h
    next => exact h.thread_ne
    next => exact h.thread_ne
  | stopping | joining | returned => exact absurd trivial hphase

/-- A worker is told to stop after those before it. -/
theorem Staged.told_after (h : Staged ports s) {first second : WorkerName}
    (horder : [first, second].Sublist (stops ports)) (htold : 0 < (s.worker second).told)
    (hne : s.worker first ≠ .create) : 0 < (s.worker first).told := by
  have hfirst := h.fits first
  have hsecond := h.fits second
  have hremaining := h.remaining
  cases hmain : s.main with
  | starting | waiting | checking | reading =>
    rw [hmain] at hsecond
    exact absurd (Up.told_zero hsecond) (Nat.ne_of_gt htold)
  | requesting left =>
    rw [hmain] at hfirst hsecond hremaining
    have hdone : second ∉ left := by
      intro hmem
      exact Nat.ne_of_gt htold ((if_pos hmem).mp hsecond).told_zero
    exact ((if_neg (not_mem_of_sublist horder hremaining hdone)).mp hfirst).told_pos hne
  | stopping | joining | returned => exact hfirst.told_pos (hmain ▸ trivial) hne

/-- A worker is collected after those before it. -/
theorem Staged.joined_after (h : Staged ports s) {first second : WorkerName}
    (horder : [first, second].Sublist (stops ports))
    (hjoined : (s.worker second).thread = .joined) (hne : s.worker first ≠ .create) :
    (s.worker first).thread = .joined := by
  have hfirst := h.fits first
  have hsecond := h.fits second
  have hremaining := h.remaining
  cases hmain : s.main with
  | starting | waiting | checking | reading | requesting =>
    exact absurd hjoined (hsecond.thread_ne (hmain ▸ id))
  | stopping left =>
    rw [hmain] at hfirst hsecond hremaining
    have hdone : second ∉ left := by
      intro hmem
      exact ((if_pos hmem).mp hsecond).thread_ne hjoined
    exact (((if_neg (not_mem_of_sublist horder hremaining hdone)).mp hfirst).told_pos hne).2
  | joining current left =>
    rw [hmain] at hfirst hsecond hremaining
    simp only [Fits] at hfirst hsecond
    have hdone : second ∉ current :: left := by
      intro hmem
      by_cases heq : second = current
      · rw [if_pos heq] at hsecond
        exact hsecond.2.thread_ne hjoined
      · rw [if_neg heq, if_pos ((mem_cons_of_ne heq).mp hmem)] at hsecond
        exact hsecond.thread_ne hjoined
    have hnot := not_mem_of_sublist horder hremaining hdone
    have hcurrent : first ≠ current := by
      rintro rfl
      exact hnot List.mem_cons_self
    rw [if_neg hcurrent, if_neg (fun hmem => hnot (List.mem_cons_of_mem current hmem))] at hfirst
    exact (hfirst.told_pos hne).2
  | returned =>
    rw [hmain] at hfirst
    exact (Collected.told_pos hfirst hne).2

/-- What the stages say. -/
theorem inOrder_of_staged (h : Staged ports s) (hjudging : Judging s) : InOrder ports s where
  untold := by
    intro hverdict name
    have hfits := h.fits name
    unfold Judging at hjudging
    cases hmain : s.main with
    | starting | waiting | checking | reading =>
      rw [hmain] at hfits
      exact Up.told_zero hfits
    | requesting | stopping | joining | returned =>
      rw [hmain] at hjudging
      exact absurd hverdict hjudging
  told_after _ _ horder htold hne := h.told_after horder htold hne
  told_all := by
    intro name other hjoined hne
    by_cases hphase : Stopping s.main
    · exact (h.fits other).told_pos hphase hne
    · exact absurd hjoined ((h.fits name).thread_ne hphase)
  joined_after _ _ horder hjoined hne := h.joined_after horder hjoined hne
  all_collected := by
    intro hmain name
    have hfits := h.fits name
    rwa [hmain] at hfits

/-! ## What `main` says -/

/-- The first message is kept. The `ec` that the handler shows is that of the message once the
signal is sent; before, it can still be zero. -/
theorem first_of_requested (h : Reported s.handler s.writer s.first s.kills)
    (requested : s.handler.shutdownRequested = true) :
    ∃ ec, s.first = some ec ∧ (s.handler.ec ≠ 0 ∨ s.kills = 1 → s.handler.ec = ec) := by
  generalize s.handler = handler, s.writer = writer, s.first = first, s.kills = kills
    at h requested ⊢
  cases h with
  | quiet => cases requested
  | claimed name ec =>
    refine ⟨ec, rfl, ?_⟩
    rintro (hec | hkills)
    · exact absurd rfl hec
    · cases hkills
  | stored name ec => exact ⟨ec, rfl, fun _ => rfl⟩
  | signalled ec => exact ⟨ec, rfl, fun _ => rfl⟩

theorem first_of_quiet (h : Reported s.handler s.writer s.first s.kills)
    (requested : s.handler.shutdownRequested = false) : s.first = none := by
  generalize s.handler = handler, s.writer = writer, s.first = first, s.kills = kills
    at h requested ⊢
  cases h with
  | quiet => rfl
  | claimed | stored | signalled => cases requested

theorem kills_le_one (h : Reported s.handler s.writer s.first s.kills) : s.kills ≤ 1 := by
  generalize s.handler = handler, s.writer = writer, s.first = first, s.kills = kills at h ⊢
  cases h with
  | quiet | claimed | stored => exact Nat.zero_le 1
  | signalled => exact Nat.le_refl 1

/-- What the verdict says about the first message. -/
structure Truthful (s : ClientRun) : Prop where
  asked : s.main = .reading → s.handler.shutdownRequested = true
  failed : ∀ k, s.verdict = some (.workerFailed, k) → ∃ ec, s.first = some ec ∧ ec ≠ 0
  gracefully : ∀ k, s.verdict = some (.gracefully, k) →
    ∃ ec, s.first = some ec ∧ (k = 1 → ec = 0)

/-- A step that leaves the verdict, and the first message. -/
theorem Truthful.keep (h : Truthful s) (hfirst : ∀ ec, s.first = some ec → t.first = some ec)
    (hverdict : t.verdict = s.verdict)
    (hasked : t.main = .reading → t.handler.shutdownRequested = true) : Truthful t where
  asked := hasked
  failed k hk := by
    obtain ⟨ec, hec, hne⟩ := h.failed k (hverdict ▸ hk)
    exact ⟨ec, hfirst ec hec, hne⟩
  gracefully k hk := by
    obtain ⟨ec, hec, hzero⟩ := h.gracefully k (hverdict ▸ hk)
    exact ⟨ec, hfirst ec hec, hzero⟩

theorem truthful_of_moves (h : Truthful s) (hjudging : Judging s)
    (hreported : Reported s.handler s.writer s.first s.kills) (hmoves : Moves ports s e t) :
    Truthful t := by
  have hasked := h.asked
  cases hmoves with
  | started | allStarted | woken | notAsked | told | allTold | awaited | passed | returned
  | joined => exact h.keep (fun _ => id) rfl nofun
  | notStarted ec main =>
    have hnone : s.verdict = none := by
      unfold Judging at hjudging
      rw [main] at hjudging
      exact hjudging
    have hsame : (s.sendFromMain ec).verdict = none := by
      unfold sendFromMain
      split
      next => exact hnone
      next => exact hnone
    refine ⟨nofun, ?_, ?_⟩
    · intro k hk
      cases hsame.symm.trans hk
    · intro k hk
      cases hsame.symm.trans hk
  | stopped result pending verdict _ notAsked =>
    refine ⟨nofun, ?_, ?_⟩
    · intro k hk
      obtain ⟨rfl, _⟩ := Prod.mk.inj (Option.some.inj hk)
      exact absurd rfl notAsked.1
    · intro k hk
      obtain ⟨rfl, _⟩ := Prod.mk.inj (Option.some.inj hk)
      exact absurd rfl notAsked.2
  | asked _ requested => exact h.keep (fun _ => id) rfl (fun _ => requested)
  | failed main hec =>
    obtain ⟨ec, hfirst, hshown⟩ := first_of_requested hreported (hasked main)
    exact ⟨nofun, fun k _ => ⟨ec, hfirst, hshown (Or.inl hec) ▸ hec⟩, nofun⟩
  | gracefully main hec =>
    obtain ⟨ec, hfirst, hshown⟩ := first_of_requested hreported (hasked main)
    refine ⟨nofun, nofun, ?_⟩
    intro k hk
    obtain ⟨_, rfl⟩ := Prod.mk.inj (Option.some.inj hk)
    exact ⟨ec, hfirst, fun hkills => (hshown (Or.inr hkills)).symm.trans hec⟩
  | repeated => exact h
  | claimed name ec requested =>
    have hnone := first_of_quiet hreported requested
    exact h.keep (fun ec hec => by cases hnone.symm.trans hec) rfl (fun _ => rfl)
  | stored | signalled | finished | arrived => exact h.keep (fun _ => id) rfl hasked

/-! ## Runs -/

theorem staged_init (ports : List PortSetup) : Staged ports (init ports) where
  fits _ := Or.inl rfl
  remaining := List.suffix_rfl
  known _ _ := rfl

structure Invariant (ports : List PortSetup) (s : ClientRun) : Prop where
  staged : Staged ports s
  judging : Judging s
  reported : Reported s.handler s.writer s.first s.kills
  truthful : Truthful s

theorem invariant_init (ports : List PortSetup) : Invariant ports (init ports) where
  staged := staged_init ports
  judging := rfl
  reported := .quiet
  truthful := ⟨nofun, nofun, nofun⟩

theorem invariant_of_step (h : Invariant ports s) (hstep : step ports s e = some t) :
    Invariant ports t where
  staged := staged_of_moves h.staged (moves hstep)
  judging := judging_of_moves h.judging (moves hstep)
  reported := reported_of_moves h.reported (moves hstep)
  truthful := truthful_of_moves h.truthful h.judging h.reported (moves hstep)

/-- What holds in every state of a run. -/
theorem invariant_of_run {es : List Event} (run : exec (step ports) (init ports) es = some s) :
    Invariant ports s :=
  exec_invariant (Invariant ports) (fun _ _ _ => invariant_of_step) (invariant_init ports) run

/-- **The client ends in order.** Whatever the threads do, and whenever they ask for a shutdown,
nobody is told to stop before `main` has left its loop; the workers are told, and then collected,
one after the other, the listeners first; nobody is collected before everybody is told; and when
`main` returns, each worker that was started has been told twice and is collected. -/
theorem ends_in_order {es : List Event} (run : exec (step ports) (init ports) es = some s) :
    InOrder ports s :=
  inOrder_of_staged (invariant_of_run run).staged (invariant_of_run run).judging

/-- A bridge with one port, which is a PTY. -/
def onePort : List PortSetup :=
  [{ speed := 115200, mode := 6, resetOnConnect := false
     listenerAddress := { isValid := false, isV6 := false, ip := [] }, listenerPort := 0
     ptsListener := ['p'], portID := 0 }]

/-- The TCP transport fails, and `main` looks at the handler before the `ec` is there. -/
def failing : List Event :=
  List.replicate 6 (.startup none) ++
    ([.send .tcpTransport 104, .wait .nothing, .check, .read, .write, .write] ++
      List.replicate 6 .request ++
        ((stops onePort).flatMap fun name => [.shutdown, .finish name, .join]) ++ [.shutdown])

theorem failing_through : (exec (step onePort) (init onePort) failing).isSome = true := by
  decide +kernel

theorem ends_in_order_failing :
    InOrder onePort ((exec (step onePort) (init onePort) failing).getD (init onePort)) ∧
      ((exec (step onePort) (init onePort) failing).getD (init onePort)).main = .returned :=
  ⟨ends_in_order (exec_eq_some_getD failing_through), by decide +kernel⟩

/-! ## What `main` says -/

/-- The `ec` of a message that reaches the handler. -/
def messages (_ : ClientRun) : Event → List Int
  | .startup (some ec) | .send _ ec => [ec]
  | .startup none | .wait _ | .check | .read | .request | .shutdown | .join | .write | .finish _
  | .arrive _ => []

/-- The first message stays the first. -/
theorem head?_message (h : Reported s.handler s.writer s.first s.kills) {log : List Int}
    (hlog : s.first = log.head?) (ec : Int) :
    (log ++ [ec]).head? = if s.handler.shutdownRequested then s.first else some ec := by
  split
  next requested =>
    obtain ⟨first, hfirst, -⟩ := first_of_requested h requested
    rw [List.head?_append, ← hlog, hfirst, Option.some_or]
  next quiet =>
    have hnone := first_of_quiet h (Bool.eq_false_iff.mpr quiet)
    rw [List.head?_append, ← hlog, hnone, Option.none_or]
    rfl

theorem first_of_moves (h : Reported s.handler s.writer s.first s.kills) {log : List Int}
    (hlog : s.first = log.head?) (hmoves : Moves ports s e t) :
    t.first = (log ++ messages s e).head? := by
  cases hmoves with
  | started | allStarted | woken | stopped | asked | notAsked | failed | gracefully | told
  | allTold | awaited | passed | returned | joined | stored | signalled | finished | arrived =>
    rw [messages, List.append_nil]
    exact hlog
  | notStarted ec main =>
    rw [messages, head?_message h hlog ec]
    show (s.sendFromMain ec).first = _
    unfold sendFromMain
    split <;> rfl
  | repeated name ec requested => rw [messages, head?_message h hlog ec, if_pos requested]
  | claimed name ec requested =>
    rw [messages, head?_message h hlog ec, requested]
    rfl

/-- **The property.** `log` are the `ec`s of the messages that reached the handler, in order. -/
structure SaysWhatHappened (log : List Int) (s : ClientRun) : Prop where
  quiet : s.handler.shutdownRequested = false → log = []
  kept : s.handler.shutdownRequested = true →
    ∃ ec, log.head? = some ec ∧ (s.handler.ec ≠ 0 ∨ s.kills = 1 → s.handler.ec = ec)
  one_signal : s.kills ≤ 1
  failed : ∀ kills, s.verdict = some (.workerFailed, kills) →
    ∃ ec, log.head? = some ec ∧ ec ≠ 0
  gracefully : ∀ kills, s.verdict = some (.gracefully, kills) →
    ∃ ec, log.head? = some ec ∧ (kills = 1 → ec = 0)

/-- **What `main` says is what happened.** In every run, the message of the first thread that
asks for a shutdown is kept, and one signal at most is sent for it. When `main` says that a worker
failed, that message carries an error. When it says that the shutdown is graceful, the message
carries none, or its signal was not sent yet. -/
theorem says_what_happened {es : List Event} (run : exec (step ports) (init ports) es = some s) :
    SaysWhatHappened (outputs (step ports) messages (init ports) es) s := by
  have hstart : Invariant ports (init ports) ∧ (init ports).first = ([] : List Int).head? :=
    ⟨invariant_init ports, rfl⟩
  obtain ⟨h, hfirst⟩ := exec_invariant_outputs (fun log s => Invariant ports s ∧
    s.first = log.head?) (fun log s e t hinv hstep => ⟨invariant_of_step hinv.1 hstep,
      first_of_moves hinv.1.reported hinv.2 (moves hstep)⟩) hstart run
  rw [List.nil_append] at hfirst
  constructor
  case quiet =>
    intro requested
    exact List.head?_eq_none_iff.mp (hfirst.symm.trans (first_of_quiet h.reported requested))
  case kept =>
    rw [← hfirst]
    exact first_of_requested h.reported
  case one_signal => exact kills_le_one h.reported
  case failed =>
    rw [← hfirst]
    exact h.truthful.failed
  case gracefully =>
    rw [← hfirst]
    exact h.truthful.gracefully

/-- `main` can say that all went well after a failure, if it looks before the signal is sent. -/
theorem says_what_happened_early :
    SaysWhatHappened [104] ((exec (step onePort) (init onePort) failing).getD (init onePort)) ∧
      ((exec (step onePort) (init onePort) failing).getD (init onePort)).verdict =
        some (.gracefully, 0) := by
  have hmessages : outputs (step onePort) messages (init onePort) failing = [104] := by
    decide +kernel
  refine ⟨?_, by decide +kernel⟩
  rw [← hmessages]
  exact says_what_happened (exec_eq_some_getD failing_through)

/-! ## A shutdown comes to its end -/

/-- The main thread goes on as long as it can, and a worker that was told to stop ends. -/
structure Fair (ports : List PortSetup) (run : Nat → ClientRun) (schedule : Nat → Event) :
    Prop where
  main : ∀ i, ∃ j, i ≤ j ∧
    ((schedule j).byMain = true ∨ ∀ e, e.byMain = true → step ports (run j) e = none)
  worker : ∀ i name, 0 < ((run i).worker name).told → ((run i).worker name).thread = .running →
    ∃ j, i ≤ j ∧ ((run j).worker name).thread ≠ .running

/-- A shutdown was requested, or `main` has left its loop. -/
def Ending (s : ClientRun) : Prop := s.handler.shutdownRequested = true ∨ s.verdict ≠ none

/-- How many steps `main` still makes, at most, when it ends. -/
def stepsLeft (ports : List PortSetup) : MainPhase → Nat
  | .starting left => 3 * (stops ports).length + 6 + left.length
  | .waiting => 3 * (stops ports).length + 5
  | .checking => 3 * (stops ports).length + 4
  | .reading => 3 * (stops ports).length + 3
  | .requesting left => 2 * (stops ports).length + 2 + left.length
  | .stopping left => 2 * left.length + 1
  | .joining _ left => 2 * left.length + 2
  | .returned => 0

theorem ending_of_moves (h : Ending s) (hmoves : Moves ports s e t) : Ending t := by
  cases hmoves with
  | started | allStarted | woken | asked | notAsked | told | allTold | awaited | passed | returned
  | joined | repeated | signalled | finished | arrived | stored => exact h
  | notStarted ec main =>
    show Ending (s.sendFromMain ec)
    unfold sendFromMain
    split
    next => exact h
    next => exact Or.inl rfl
  | stopped | failed | gracefully => exact Or.inr (Option.some_ne_none _)
  | claimed => exact Or.inl rfl

/-- The other threads leave `main` where it is, and a thread that has ended too. -/
theorem main_of_moves (hmoves : Moves ports s e t) (hbyMain : e.byMain = false) :
    t.main = s.main ∧
      ∀ name, (s.worker name).thread = .finished → (t.worker name).thread = .finished := by
  cases hmoves with
  | started | notStarted | allStarted | woken | stopped | asked | notAsked | failed | gracefully
  | told | allTold | awaited | passed | returned | joined => cases hbyMain
  | repeated | claimed | stored | signalled | arrived => exact ⟨rfl, fun _ => id⟩
  | finished name running =>
    refine ⟨rfl, ?_⟩
    intro other hother
    show (if other = name then (s.worker name).finish else s.worker other).thread = .finished
    split
    next => rfl
    next => exact hother

/-- Each step of `main` brings it closer to its end. -/
theorem stepsLeft_of_moves (h : Ending s) (hjudging : Judging s) (hmoves : Moves ports s e t)
    (hbyMain : e.byMain = true) : stepsLeft ports t.main < stepsLeft ports s.main := by
  cases hmoves with
  | started main | notStarted _ main | allStarted main | woken _ _ main | stopped _ _ _ main
  | asked main | failed main | gracefully main | told main | allTold main | awaited main
  | passed main | returned main | joined main =>
    rw [main]
    simp only [stepsLeft, leave, List.length_cons, List.length_nil]
    omega
  | notAsked main requested =>
    unfold Judging at hjudging
    rw [main] at hjudging
    rcases h with hrequested | hverdict
    · cases requested.symm.trans hrequested
    · exact absurd hjudging hverdict
  | repeated | claimed | stored | signalled | finished | arrived => cases hbyMain

/-- Where `main` can make no step: at its end, or at the `join` of a thread that has not ended. -/
theorem main_of_blocked (h : ∀ e, e.byMain = true → step ports s e = none) :
    s.main = .returned ∨
      ∃ name left, s.main = .joining name left ∧ (s.worker name).thread ≠ .finished := by
  have hmoves (e : Event) (he : e.byMain = true) (hsome : (step ports s e).isSome = true) :
      False := by
    rw [h e he] at hsome
    cases hsome
  cases hmain : s.main with
  | starting left =>
    refine (hmoves (.startup none) rfl ?_).elim
    cases left with
    | nil => simp only [step, hmain, Option.isSome_some]
    | cons name left => simp only [step, hmain, Option.isSome_some]
  | waiting =>
    refine (hmoves (.wait .nothing) rfl ?_).elim
    simp only [step, hmain, woken, Option.isSome_some]
  | checking =>
    refine (hmoves .check rfl ?_).elim
    simp only [step, hmain, Option.isSome_some]
  | reading =>
    refine (hmoves .read rfl ?_).elim
    simp only [step, hmain, Option.isSome_some]
  | requesting left =>
    refine (hmoves .request rfl ?_).elim
    cases left with
    | nil => simp only [step, hmain, Option.isSome_some]
    | cons name left => simp only [step, hmain, Option.isSome_some]
  | stopping left =>
    refine (hmoves .shutdown rfl ?_).elim
    cases left with
    | nil => simp only [step, hmain, Option.isSome_some]
    | cons name left =>
      simp only [step, hmain]
      split
      next => rfl
      next => rfl
  | joining name left =>
    refine Or.inr ⟨name, left, rfl, ?_⟩
    intro hfinished
    refine hmoves .join rfl ?_
    simp only [step, hmain, if_pos hfinished, Option.isSome_some]
  | returned => exact Or.inl rfl

section Endless

variable {run : Nat → ClientRun} {schedule : Nat → Event}

theorem invariant_at (hstart : run 0 = init ports)
    (hrun : ∀ i, step ports (run i) (schedule i) = some (run (i + 1))) (i : Nat) :
    Invariant ports (run i) := by
  induction i with
  | zero => exact hstart ▸ invariant_init ports
  | succ i ih => exact invariant_of_step ih (hrun i)

theorem ending_at (hrun : ∀ i, step ports (run i) (schedule i) = some (run (i + 1))) {i : Nat}
    (h : Ending (run i)) {j : Nat} (hij : i ≤ j) : Ending (run j) := by
  induction hij with
  | refl => exact h
  | step _ ih => exact ending_of_moves ih (moves (hrun _))

/-- While `main` makes no step, it stays where it is, and a thread that has ended too. -/
theorem main_at (hrun : ∀ i, step ports (run i) (schedule i) = some (run (i + 1))) {i j : Nat}
    (hij : i ≤ j) (hidle : ∀ k, i ≤ k → (schedule k).byMain = false) :
    (run j).main = (run i).main ∧ ∀ name, ((run i).worker name).thread = .finished →
      ((run j).worker name).thread = .finished := by
  induction hij with
  | refl => exact ⟨rfl, fun _ => id⟩
  | @step j hij ih =>
    obtain ⟨hmain, hthread⟩ := main_of_moves (moves (hrun j)) (hidle j hij)
    exact ⟨hmain.trans ih.1, fun name hname => hthread name (ih.2 name hname)⟩

/-- `main` makes another step, or has returned. -/
theorem main_goes_on (hstart : run 0 = init ports)
    (hrun : ∀ i, step ports (run i) (schedule i) = some (run (i + 1)))
    (hfair : Fair ports run schedule) (i : Nat) :
    ∃ j, i ≤ j ∧ ((run j).main = .returned ∨ (schedule j).byMain = true) := by
  by_contra hnot
  have hidle (k : Nat) (hik : i ≤ k) : (schedule k).byMain = false :=
    Bool.eq_false_iff.mpr fun hk => hnot ⟨k, hik, Or.inr hk⟩
  have hblocked (k : Nat) (hik : i ≤ k) : ∃ l, k ≤ l ∧ ∃ name left,
      (run l).main = .joining name left ∧ ((run l).worker name).thread ≠ .finished := by
    obtain ⟨l, hkl, hmain⟩ := hfair.main k
    have hil := Nat.le_trans hik hkl
    rcases hmain with hmain | hmain
    · cases (hidle l hil).symm.trans hmain
    · rcases main_of_blocked hmain with hreturned | hjoining
      · exact absurd ⟨l, hil, Or.inl hreturned⟩ hnot
      · exact ⟨l, hkl, hjoining⟩
  -- the thread that `main` waits for was told to stop, and so it ends
  obtain ⟨j, hij, name, left, hmain, _⟩ := hblocked i (Nat.le_refl i)
  have hstays {k : Nat} (hjk : j ≤ k) : (run k).main = .joining name left :=
    (main_at hrun hjk (fun l hl => hidle l (Nat.le_trans hij hl))).1.trans hmain
  have hup {k : Nat} (hjk : j ≤ k) : (((run k).worker name).thread = .running ∨
      ((run k).worker name).thread = .finished) ∧ ((run k).worker name).told = 2 := by
    have hfits := (invariant_at hstart hrun k).staged.fits name
    rw [hstays hjk] at hfits
    exact Up.of_started ((if_pos rfl).mp hfits).2 ((if_pos rfl).mp hfits).1
  have hends : ∃ k, j ≤ k ∧ ((run k).worker name).thread = .finished := by
    obtain ⟨hthread, htold⟩ := hup (Nat.le_refl j)
    rcases hthread with hrunning | hfinished
    · obtain ⟨k, hjk, hk⟩ := hfair.worker j name (htold ▸ Nat.succ_pos 1) hrunning
      exact ⟨k, hjk, (hup hjk).1.resolve_left hk⟩
    · exact ⟨j, Nat.le_refl j, hfinished⟩
  obtain ⟨k, hjk, hfinished⟩ := hends
  have hik := Nat.le_trans hij hjk
  obtain ⟨l, hkl, other, rest, hmain', hnotFinished⟩ := hblocked k hik
  rw [hstays (Nat.le_trans hjk hkl)] at hmain'
  cases hmain'
  have hkept := (main_at hrun hkl (fun m hm => hidle m (Nat.le_trans hik hm))).2
  exact hnotFinished (hkept name hfinished)

/-- **A shutdown comes to its end.** Once a thread has asked for a shutdown, or `main` has left its
loop, `main` returns, with all threads collected: provided that the main thread goes on as long as
it can, and that each worker ends some time after it is told to. -/
theorem shutdown_completes (hstart : run 0 = init ports)
    (hrun : ∀ i, step ports (run i) (schedule i) = some (run (i + 1)))
    (hfair : Fair ports run schedule) {i : Nat}
    (hending : (run i).handler.shutdownRequested = true ∨ (run i).verdict ≠ none) :
    ∃ j, i ≤ j ∧ (run j).main = .returned ∧ ∀ name, Collected ((run j).worker name) := by
  have hfalls {j : Nat} (hij : i ≤ j) (hj : (schedule j).byMain = true) :
      stepsLeft ports (run (j + 1)).main < stepsLeft ports (run j).main :=
    stepsLeft_of_moves (ending_at hrun hending hij) (invariant_at hstart hrun j).judging
      (moves (hrun j)) hj
  have hreturns : ∃ j, i ≤ j ∧ (run j).main = .returned := by
    refine @eventually_of_acc _ (· < ·) (fun j => stepsLeft ports (run j).main) _ i
      (Nat.lt_wfRel.wf.apply _) ?_ ?_
    · intro j hij _
      cases hj : (schedule j).byMain with
      | true => exact Or.inr (hfalls hij hj)
      | false =>
        rw [(main_of_moves (moves (hrun j)) hj).1]
        exact Or.inl rfl
    · intro j hij
      obtain ⟨k, hjk, hgoal⟩ := main_goes_on hstart hrun hfair j
      exact ⟨k, hjk, hgoal.imp_right (hfalls (Nat.le_trans hij hjk))⟩
  obtain ⟨j, hij, hmain⟩ := hreturns
  have hinvariant := invariant_at hstart hrun j
  have hinOrder := inOrder_of_staged hinvariant.staged hinvariant.judging
  exact ⟨j, hij, hmain, hinOrder.all_collected hmain⟩

/-- When `main` has returned, nothing is left to wait for. -/
theorem fair_of_returned (hstart : run 0 = init ports)
    (hrun : ∀ i, step ports (run i) (schedule i) = some (run (i + 1))) {n : Nat}
    (hreturned : (run n).main = .returned) : Fair ports run schedule := by
  have hmoves {s : ClientRun} (hs : s.main = .returned) (e : Event) (he : e.byMain = true) :
      step ports s e = none := by
    cases e with
    | startup | wait | check | read | request | shutdown | join => simp only [step, hs]
    | send | write | finish | arrive => cases he
  have hstays {j : Nat} (hnj : n ≤ j) : (run j).main = .returned := by
    induction hnj with
    | refl => exact hreturned
    | @step j _ ih =>
      cases hj : (schedule j).byMain with
      | true => cases (hmoves ih (schedule j) hj).symm.trans (hrun j)
      | false => exact (main_of_moves (moves (hrun j)) hj).1.trans ih
  constructor
  · intro i
    exact ⟨max i n, Nat.le_max_left i n, Or.inr (hmoves (hstays (Nat.le_max_right i n)))⟩
  · intro i name _ _
    refine ⟨max i n, Nat.le_max_left i n, ?_⟩
    have hinvariant := invariant_at hstart hrun (max i n)
    exact ((inOrder_of_staged hinvariant.staged hinvariant.judging).all_collected
      (hstays (Nat.le_max_right i n)) name).thread_ne

end Endless

/-- The failing client, and signals from outside when it is over. -/
def failingSchedule (i : Nat) : Event := failing.getD i (.arrive .SIGHUP)

def failingRun : Nat → ClientRun
  | 0 => init onePort
  | i + 1 => (step onePort (failingRun i) (failingSchedule i)).getD (failingRun i)

theorem failingRun_step (i : Nat) :
    step onePort (failingRun i) (failingSchedule i) = some (failingRun (i + 1)) := by
  have hsome : (step onePort (failingRun i) (failingSchedule i)).isSome = true := by
    rcases Nat.lt_or_ge i failing.length with hlt | hge
    · have hall : ∀ j : Fin failing.length,
          (step onePort (failingRun j) (failingSchedule j)).isSome = true := by decide +kernel
      exact hall ⟨i, hlt⟩
    · rw [failingSchedule, List.getD_eq_getElem?_getD, List.getElem?_eq_none hge]
      rfl
  obtain ⟨t, ht⟩ := Option.isSome_iff_exists.mp hsome
  rw [failingRun, ht, Option.getD_some]

theorem shutdown_completes_failing :
    (failingRun 7).handler.shutdownRequested = true ∧
      ∃ j, 7 ≤ j ∧ (failingRun j).main = .returned ∧
        ∀ name, Collected ((failingRun j).worker name) := by
  have hreturned : (failingRun failing.length).main = .returned := by decide +kernel
  have hrequested : (failingRun 7).handler.shutdownRequested = true := by decide +kernel
  have hstart : failingRun 0 = init onePort := rfl
  exact ⟨hrequested, shutdown_completes hstart failingRun_step
    (fair_of_returned hstart failingRun_step hreturned) (Or.inl hrequested)⟩

end UartBridge.Client.ClientRun

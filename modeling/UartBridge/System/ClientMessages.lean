import UartBridge.Client.Messages
import UartBridge.System.Broker

/-!
# The messages of the client

The debug build of the message broker drops a message when its source is sending already on the
same thread. Here the client's own messages are followed through it.

* `Descends` — handlers that send for sources of a lower rank only, and nothing else than what
  they may;
* `ranked_of_run` — then the calls of each thread stay in the order of their ranks;
* `ranked_returns` — and each of them returns, in both builds;
* `descends` — the client's handlers are such: a tick goes from the timer to the data processor,
  and from there to the TCP transport;
* `client_messages`, `client_returns` — no message of the client is ever dropped.
-/

namespace UartBridge.Broker

open EventRun Client MessageBroker

variable {Tid σ Src Msg Sub β κ : Type}

/-! ## Ranks of sources -/

/-- A handler that sends only what `Q` allows, on every way that it may take. -/
def SendsOnly (Q : Src → Msg → Prop) : Code σ Src Msg → Prop
  | .done => True
  | .act _ next => ∀ shared, SendsOnly Q (next shared)
  | .send source message next => Q source message ∧ ∀ shared, SendsOnly Q (next shared)

section Rank

variable (allowed : Src → Msg → Prop) (rank : Src → Nat)

/-- What a handler may send that runs in a send of `source`. -/
def Below (source source' : Src) (message : Msg) : Prop :=
  allowed source' message ∧ rank source' < rank source

/-- What a handler sends for a message that was allowed is allowed, and its source is below. -/
def Descends (P : Subscribers σ Src Msg Sub) : Prop :=
  ∀ subscriber source message, allowed source message →
    P.readyForMessage subscriber message = true →
    SendsOnly (Below allowed rank source) (P.onMessage subscriber source message)

/-- The calls of a thread, the innermost first: each is below the one that it was made in. -/
structure InOrder (calls : List (Frame σ Src Msg Sub κ)) : Prop where
  sent : ∀ f ∈ calls, allowed f.source f.message
  code : ∀ f ∈ calls, SendsOnly (Below allowed rank f.source) f.code
  ranks : calls.Pairwise fun f g => rank f.source < rank g.source

variable {allowed rank}

theorem InOrder.nil : InOrder allowed rank ([] : List (Frame σ Src Msg Sub κ)) :=
  ⟨List.forall_mem_nil _, List.forall_mem_nil _, List.Pairwise.nil⟩

section Calls

variable {f : Frame σ Src Msg Sub κ} {fs : List (Frame σ Src Msg Sub κ)}

theorem InOrder.tail (h : InOrder allowed rank (f :: fs)) : InOrder allowed rank fs :=
  ⟨(List.forall_mem_cons.mp h.sent).2, (List.forall_mem_cons.mp h.code).2,
    (List.pairwise_cons.mp h.ranks).2⟩

/-- The innermost call goes on with its loop, or with its handler. -/
theorem InOrder.goes_on (h : InOrder allowed rank (f :: fs)) (curSubscribers : List Sub)
    {code : Code σ Src Msg} (hcode : SendsOnly (Below allowed rank f.source) code) :
    InOrder allowed rank ({ f with curSubscribers := curSubscribers, code := code } :: fs) :=
  ⟨List.forall_mem_cons.mpr (List.forall_mem_cons.mp h.sent),
    List.forall_mem_cons.mpr ⟨hcode, (List.forall_mem_cons.mp h.code).2⟩,
    List.pairwise_cons.mpr (List.pairwise_cons.mp h.ranks)⟩

theorem InOrder.resume (h : InOrder allowed rank fs) (shared : σ) :
    InOrder allowed rank (resume shared fs) := by
  cases fs with
  | nil => exact h
  | cons f fs =>
    have hf := (List.forall_mem_cons.mp h.code).1
    cases hcode : f.code with
    | done | act _ _ =>
      simp only [MessageBroker.resume, hcode]
      exact h
    | send source message next =>
      simp only [MessageBroker.resume, hcode]
      rw [hcode] at hf
      exact h.goes_on f.curSubscribers (hf.2 shared)

/-- A nested call is below all that are active. -/
theorem InOrder.below (h : InOrder allowed rank (f :: fs)) {source : Src} {message : Msg}
    {next : σ → Code σ Src Msg} (hcode : f.code = .send source message next) :
    allowed source message ∧ ∀ g ∈ f :: fs, rank source < rank g.source := by
  have hf := (List.forall_mem_cons.mp h.code).1
  rw [hcode] at hf
  refine ⟨hf.1.1, List.forall_mem_cons.mpr ⟨hf.1.2, fun g hg => ?_⟩⟩
  exact Nat.lt_trans hf.1.2 ((List.pairwise_cons.mp h.ranks).1 g hg)

theorem InOrder.enter (h : InOrder allowed rank fs) {source : Src} {message : Msg}
    (hallowed : allowed source message) (hbelow : ∀ g ∈ fs, rank source < rank g.source)
    (locals : κ) (curSubscribers : List Sub) :
    InOrder allowed rank
      ({ source := source, message := message, locals := locals
         curSubscribers := curSubscribers, code := .done } :: fs) :=
  ⟨List.forall_mem_cons.mpr ⟨hallowed, h.sent⟩,
    List.forall_mem_cons.mpr ⟨trivial, h.code⟩, List.pairwise_cons.mpr ⟨hbelow, h.ranks⟩⟩

/-- Ranks that fall from call to call leave room for no more calls than there are ranks. -/
theorem InOrder.length_le (h : InOrder allowed rank fs) {n : Nat}
    (hrank : ∀ g ∈ fs, rank g.source < n) : fs.length ≤ n := by
  have hnodup : (fs.map fun g => rank g.source).Nodup :=
    List.pairwise_map.mpr (h.ranks.imp fun hlt => Nat.ne_of_lt hlt)
  have hsub : (fs.map fun g => rank g.source) ⊆ List.range n := by
    intro r hr
    obtain ⟨g, hg, rfl⟩ := List.mem_map.mp hr
    exact List.mem_range.mpr (hrank g hg)
  calc fs.length = (fs.map fun g => rank g.source).length := (List.length_map _).symm
    _ ≤ (List.range n).length := (hnodup.subperm hsub).length_le
    _ = n := List.length_range

end Calls

end Rank

/-! ## Steps of both builds -/

/-- A call that has just been made. -/
def newCall (P : Subscribers σ Src Msg Sub) (source : Src) (message : Msg) (locals : κ) :
    Frame σ Src Msg Sub κ where
  source := source
  message := message
  locals := locals
  curSubscribers := P.subscribers
  code := .done

/-- What a step makes of the calls of its thread. Whether a call is refused is up to the
build. -/
inductive CallStep (P : Subscribers σ Src Msg Sub) (shared : σ) : BrokerEvent Tid Src Msg →
    List (Frame σ Src Msg Sub κ) → List (Frame σ Src Msg Sub κ) → Prop where
  | call (thread : Tid) (source : Src) (message : Msg) (locals : κ) :
      CallStep P shared (.call thread source message) [] [newCall P source message locals]
  | callRefused (thread : Tid) (source : Src) (message : Msg) :
      CallStep P shared (.call thread source message) [] []
  | send {f : Frame σ Src Msg Sub κ} {source : Src} {message : Msg} {next : σ → Code σ Src Msg}
      (thread : Tid) (fs : List (Frame σ Src Msg Sub κ))
      (hcode : f.code = .send source message next) (locals : κ) :
      CallStep P shared (.run thread) (f :: fs) (newCall P source message locals :: f :: fs)
  | sendRefused {f : Frame σ Src Msg Sub κ} {source : Src} {message : Msg}
      {next : σ → Code σ Src Msg} (thread : Tid) (fs : List (Frame σ Src Msg Sub κ))
      (hcode : f.code = .send source message next) :
      CallStep P shared (.run thread) (f :: fs) ({ f with code := next shared } :: fs)
  | act {f : Frame σ Src Msg Sub κ} {update : σ → σ} {next : σ → Code σ Src Msg}
      (thread : Tid) (fs : List (Frame σ Src Msg Sub κ)) (hcode : f.code = .act update next) :
      CallStep P shared (.run thread) (f :: fs) ({ f with code := next shared } :: fs)
  | deliver {f : Frame σ Src Msg Sub κ} {subscriber : Sub} {curSubscribers : List Sub}
      (thread : Tid) (fs : List (Frame σ Src Msg Sub κ)) (hcode : f.code = .done)
      (hsubs : f.curSubscribers = subscriber :: curSubscribers)
      (hready : P.readyForMessage subscriber f.message = true) :
      CallStep P shared (.run thread) (f :: fs)
        ({ f with
            curSubscribers := curSubscribers
            code := P.onMessage subscriber f.source f.message } :: fs)
  | skip {f : Frame σ Src Msg Sub κ} {subscriber : Sub} {curSubscribers : List Sub}
      (thread : Tid) (fs : List (Frame σ Src Msg Sub κ)) (hcode : f.code = .done)
      (hsubs : f.curSubscribers = subscriber :: curSubscribers) :
      CallStep P shared (.run thread) (f :: fs) ({ f with curSubscribers := curSubscribers } :: fs)
  | leave {f : Frame σ Src Msg Sub κ} (thread : Tid) (fs : List (Frame σ Src Msg Sub κ))
      (hcode : f.code = .done) (hsubs : f.curSubscribers = []) :
      CallStep P shared (.run thread) (f :: fs) (resume shared fs)

section BothBuilds

variable [DecidableEq Tid] {build : Build Tid Src β κ} {P : Subscribers σ Src Msg Sub}
  {s u : MessageBroker Tid σ Src Msg Sub β κ} {e : BrokerEvent Tid Src Msg}

theorem sendMessage_calls (thread : Tid) (source : Src) (message : Msg) :
    (∃ locals, (s.sendMessage build P thread source message).calls =
      Function.update s.calls thread (newCall P source message locals :: s.calls thread)) ∨
    (s.sendMessage build P thread source message).calls =
      Function.update s.calls thread (resume s.shared (s.calls thread)) := by
  unfold sendMessage
  dsimp only
  cases (build.enter thread source s.book).2 with
  | none => exact Or.inr rfl
  | some locals => exact Or.inl ⟨locals, rfl⟩

/-- **A step is one of its thread**, in each build. -/
theorem callStep_of_step {calls : List (Frame σ Src Msg Sub κ)}
    (hcalls : s.calls e.thread = calls) (hstep : step build P s e = some u) :
    ∃ active, CallStep P s.shared e calls active ∧
      u.calls = Function.update s.calls e.thread active := by
  cases e with
  | call thread source message =>
    simp only [BrokerEvent.thread] at hcalls
    cases calls with
    | cons f fs => simp only [step, hcalls, reduceCtorEq] at hstep
    | nil =>
      simp only [step, hcalls, Option.some.injEq] at hstep
      subst hstep
      have hsend := @sendMessage_calls _ _ _ _ _ _ _ _ build P s thread source message
      rw [hcalls] at hsend
      rcases hsend with ⟨locals, hsend⟩ | hsend
      · exact ⟨_, .call thread source message locals, hsend⟩
      · exact ⟨_, .callRefused thread source message, hsend⟩
  | run thread =>
    simp only [BrokerEvent.thread] at hcalls
    cases calls with
    | nil => simp only [step, hcalls, reduceCtorEq] at hstep
    | cons f fs =>
      cases hcode : f.code with
      | act update next =>
        simp only [step, hcalls, hcode, Option.some.injEq] at hstep
        subst hstep
        exact ⟨_, .act thread fs hcode, rfl⟩
      | send source message next =>
        simp only [step, hcalls, hcode, Option.some.injEq] at hstep
        subst hstep
        have hsend := @sendMessage_calls _ _ _ _ _ _ _ _ build P s thread source message
        simp only [hcalls, resume, hcode] at hsend
        rcases hsend with ⟨locals, hsend⟩ | hsend
        · exact ⟨_, .send thread fs hcode locals, hsend⟩
        · exact ⟨_, .sendRefused thread fs hcode, hsend⟩
      | done =>
        simp only [step, hcalls, hcode, Option.some.injEq] at hstep
        subst hstep
        cases hsubs : f.curSubscribers with
        | nil =>
          refine ⟨_, .leave thread fs hcode hsubs, ?_⟩
          simp only [loopTurn, hsubs]
          rfl
        | cons subscriber curSubscribers =>
          cases hready : P.readyForMessage subscriber f.message with
          | true =>
            refine ⟨_, .deliver thread fs hcode hsubs hready, ?_⟩
            simp only [loopTurn, hsubs, hready, if_true]
            rfl
          | false =>
            refine ⟨_, .skip thread fs hcode hsubs, ?_⟩
            simp only [loopTurn, hsubs, hready, Bool.false_eq_true, if_false]
            rfl

end BothBuilds

/-! ## Handlers that descend -/

section Descends

variable {allowed : Src → Msg → Prop} {rank : Src → Nat} {P : Subscribers σ Src Msg Sub}

/-- What the threads send by themselves is allowed. -/
def Sent (allowed : Src → Msg → Prop) : BrokerEvent Tid Src Msg → Prop
  | .call _ source message => allowed source message
  | .run _ => True

/-- **A step keeps the order of the calls.** -/
theorem InOrder.step (hdesc : Descends allowed rank P) {shared : σ} {e : BrokerEvent Tid Src Msg}
    {calls active : List (Frame σ Src Msg Sub κ)} (hstep : CallStep P shared e calls active)
    (hsent : Sent allowed e) (h : InOrder allowed rank calls) : InOrder allowed rank active := by
  cases hstep with
  | call thread source message locals => exact h.enter hsent (List.forall_mem_nil _) locals _
  | callRefused thread source message => exact h
  | send thread fs hcode locals =>
    obtain ⟨hallowed, hbelow⟩ := h.below hcode
    exact h.enter hallowed hbelow locals _
  | @sendRefused f _ _ _ thread fs hcode =>
    have hf := (List.forall_mem_cons.mp h.code).1
    rw [hcode] at hf
    exact h.goes_on f.curSubscribers (hf.2 shared)
  | @act f _ _ thread fs hcode =>
    have hf := (List.forall_mem_cons.mp h.code).1
    rw [hcode] at hf
    exact h.goes_on f.curSubscribers (hf shared)
  | @deliver f subscriber curSubscribers thread fs hcode hsubs hready =>
    exact h.goes_on curSubscribers
      (hdesc subscriber f.source f.message (List.forall_mem_cons.mp h.sent).1 hready)
  | @skip f subscriber curSubscribers thread fs hcode hsubs =>
    exact h.goes_on curSubscribers (List.forall_mem_cons.mp h.code).1
  | leave thread fs hcode hsubs => exact h.tail.resume shared

/-- A call that is below the active ones is a new one, and so its thread makes headway. -/
theorem InOrder.threadStep {shared : σ} {e : BrokerEvent Tid Src Msg}
    {calls active : List (Frame σ Src Msg Sub κ)} (hstep : CallStep P shared e calls active)
    (h : InOrder allowed rank calls) (hne : calls ≠ []) : ThreadStep P calls active := by
  cases hstep with
  | call | callRefused => exact absurd rfl hne
  | send thread fs hcode locals =>
    refine .enter hcode ?_ locals
    intro hmem
    obtain ⟨g, hg, heq⟩ := List.mem_map.mp hmem
    exact absurd ((h.below hcode).2 g hg) (heq ▸ Nat.lt_irrefl _)
  | sendRefused thread fs hcode => exact .refused hcode shared
  | act thread fs hcode => exact .act hcode shared
  | deliver thread fs hcode hsubs hready => exact .turn hcode hsubs _
  | @skip f _ _ thread fs hcode hsubs => exact .turn hcode hsubs f.code
  | leave thread fs hcode hsubs => exact .leave hcode hsubs shared

/-- The calls of every thread are in the order of their ranks. -/
def Ranked (allowed : Src → Msg → Prop) (rank : Src → Nat)
    (s : MessageBroker Tid σ Src Msg Sub β κ) : Prop :=
  ∀ thread, InOrder allowed rank (s.calls thread)

theorem ranked_init (book : β) (shared : σ) :
    Ranked allowed rank (init book shared : MessageBroker Tid σ Src Msg Sub β κ) :=
  fun _ => InOrder.nil

variable [DecidableEq Tid] {build : Build Tid Src β κ}
  {s u : MessageBroker Tid σ Src Msg Sub β κ} {e : BrokerEvent Tid Src Msg}

theorem ranked_step (hdesc : Descends allowed rank P) (h : Ranked allowed rank s)
    (hsent : Sent allowed e) (hstep : step build P s e = some u) : Ranked allowed rank u := by
  obtain ⟨active, hcall, hcalls⟩ := callStep_of_step rfl hstep
  intro t
  rw [hcalls]
  by_cases ht : t = e.thread
  · subst ht
    rw [Function.update_self]
    exact (h e.thread).step hdesc hcall hsent
  · rw [Function.update_of_ne ht]
    exact h t

/-- A source does not send again while a send of it is active on the thread. -/
theorem notAgain_of_ranked (h : Ranked allowed rank s) (hstep : step build P s e = some u) :
    NotAgain s e := by
  intro source hsource hmem
  cases e with
  | call thread source' message =>
    cases hcalls : s.calls thread with
    | nil => simp only [sources, BrokerEvent.thread, hcalls, List.map_nil, List.not_mem_nil] at hmem
    | cons f fs => simp only [step, hcalls, reduceCtorEq] at hstep
  | run thread =>
    cases hcalls : s.calls thread with
    | nil => simp only [step, hcalls, reduceCtorEq] at hstep
    | cons f fs =>
      have hthread := h thread
      rw [hcalls] at hthread
      cases hcode : f.code with
      | done | act _ _ => simp only [sending, hcalls, hcode, reduceCtorEq] at hsource
      | send source' message next =>
        simp only [sending, hcalls, hcode, Option.some.injEq] at hsource
        subst hsource
        simp only [sources, BrokerEvent.thread, hcalls] at hmem
        obtain ⟨g, hg, heq⟩ := List.mem_map.mp hmem
        exact absurd ((hthread.below hcode).2 g hg) (heq ▸ Nat.lt_irrefl _)

/-- **Along every run the calls of each thread stay in the order of their ranks**, and nothing
is sent again. -/
theorem ranked_of_run (hdesc : Descends allowed rank P) {es : List (BrokerEvent Tid Src Msg)}
    (h : Ranked allowed rank s) (hsent : ∀ e ∈ es, Sent allowed e)
    (hrun : exec (step build P) s es = some u) :
    Ranked allowed rank u ∧ Along (step build P) NotAgain s es := by
  induction es generalizing s with
  | nil =>
    rw [exec_nil, Option.some.injEq] at hrun
    exact ⟨hrun ▸ h, trivial⟩
  | cons e es ih =>
    obtain ⟨t, hstep, hes⟩ := exec_cons_eq_some.mp hrun
    obtain ⟨hhead, htail⟩ := List.forall_mem_cons.mp hsent
    obtain ⟨hu, halong⟩ := ih (ranked_step hdesc h hhead hstep) htail hes
    exact ⟨hu, Along.cons (notAgain_of_ranked h hstep) hstep halong⟩

/-- **Each call returns**, in each build, if its thread goes on again and again and sends for
finitely many sources. -/
theorem ranked_returns [Fintype Src] (hdesc : Descends allowed rank P)
    {run : Nat → MessageBroker Tid σ Src Msg Sub β κ} {schedule : Nat → BrokerEvent Tid Src Msg}
    {thread : Tid} (h : Ranked allowed rank (run 0)) (hsent : ∀ i, Sent allowed (schedule i))
    (hrun : ∀ i, step build P (run i) (schedule i) = some (run (i + 1)))
    (hfair : ∀ i, ∃ j, i ≤ j ∧ (schedule j).thread = thread) {i : Nat}
    (hactive : (run i).calls thread ≠ []) :
    ∃ j, i ≤ j ∧ ((run j).calls thread).length < ((run i).calls thread).length := by
  have hranked (j : Nat) : Ranked allowed rank (run j) := by
    induction j with
    | zero => exact h
    | succ j ih => exact ranked_step hdesc ih (hsent j) (hrun j)
  have hmoves (j : Nat) (ht : (schedule j).thread = thread)
      (hlen : ((run i).calls thread).length ≤ ((run j).calls thread).length) :
      ThreadStep P ((run j).calls thread) ((run (j + 1)).calls thread) := by
    obtain ⟨active, hcall, hcalls⟩ := callStep_of_step rfl (hrun j)
    rw [hcalls, ← ht, Function.update_self]
    refine (hranked j (schedule j).thread).threadStep hcall ?_
    rw [ht]
    intro hnil
    rw [hnil, List.length_nil, Nat.le_zero, List.length_eq_zero_iff] at hlen
    exact hactive hlen
  have hstays (j : Nat) (ht : (schedule j).thread ≠ thread) :
      (run (j + 1)).calls thread = (run j).calls thread := by
    obtain ⟨active, -, hcalls⟩ := callStep_of_step rfl (hrun j)
    rw [hcalls]
    exact Function.update_of_ne (Ne.symm ht) _ _
  have hends : Ends P Finset.univ ((run i).calls thread) := by
    refine ends_calls _ (fun f _ => Finset.mem_univ f.source) ?_
    refine List.pairwise_map.mpr ((hranked i thread).ranks.imp ?_)
    intro f g hlt heq
    exact absurd hlt (heq ▸ Nat.lt_irrefl _)
  refine @eventually_of_acc _ _ (fun j => (run j).calls thread) _ i hends ?_ ?_
  · intro j _ hgoal
    by_cases ht : (schedule j).thread = thread
    · exact Or.inr ⟨hmoves j ht (Nat.not_lt.mp hgoal), fun f _ => Finset.mem_univ f.source⟩
    · exact Or.inl (hstays j ht)
  · intro j _
    obtain ⟨k, hk, ht⟩ := hfair j
    refine ⟨k, hk, ?_⟩
    rcases Nat.lt_or_ge ((run k).calls thread).length ((run i).calls thread).length with hlt | hge
    · exact Or.inl hlt
    · exact Or.inr ⟨hmoves k ht hge, fun f _ => Finset.mem_univ f.source⟩

end Descends

/-! ## The client -/

section ClientHandlers

variable {portCount : Nat} {Conn : Type} (H : Handlers portCount σ Conn)

/-- All that the client sends: what its threads send by themselves, and the packages. -/
def clientSends (source : Source portCount) (message : Message Conn) : Prop :=
  source.sends message.msgType = true ∨
    source = .dataProcessor ∧ message.msgType = .sendPackage

/-- A tick goes from the timer to the data processor, and from there to the transports. -/
def clientRank : Source portCount → Nat
  | .pollTimer => 2
  | .dataProcessor => 1
  | .tcpTransport | .udpTransport | .tcpListener _ | .ptyListener _ => 0

/-- What a handler may send in a send of the data processor: what the transports send. -/
abbrev BelowPackage : Source portCount → Message Conn → Prop :=
  Below clientSends clientRank .dataProcessor

theorem sendWith_only (transport : Transport σ Conn) {Q : Source portCount → Message Conn → Prop}
    (conn : Option Conn) : SendsOnly Q (Handlers.sendWith transport conn) := by
  cases conn with
  | none => trivial
  | some conn => exact fun _ => trivial

/-- `GetConnection` of the TCP transport sends that it is connected, or that it failed. -/
theorem getTcpConnection_only {next : Option Conn → Code σ (Source portCount) (Message Conn)}
    (hnext : ∀ conn, SendsOnly BelowPackage (next conn)) :
    SendsOnly BelowPackage (H.getTcpConnection next) := by
  intro shared
  cases hopening : H.tcp.opening shared with
  | current conn => simpa only [hopening] using hnext (some conn)
  | unreachable => simpa only [hopening] using hnext none
  | failed ec =>
    simp only [hopening]
    exact ⟨⟨Or.inl rfl, Nat.zero_lt_one⟩, fun _ _ => hnext none⟩
  | opened conn udpPort =>
    simp only [hopening]
    exact ⟨⟨Or.inl rfl, Nat.zero_lt_one⟩, fun _ => hnext (some conn)⟩

/-- That of the UDP transport only sends that it failed. -/
theorem getUdpConnection_only {next : Option Conn → Code σ (Source portCount) (Message Conn)}
    (hnext : ∀ conn, SendsOnly BelowPackage (next conn)) :
    SendsOnly BelowPackage (H.getUdpConnection next) := by
  unfold Handlers.getUdpConnection
  split
  · intro shared
    cases hopening : H.udp.opening shared with
    | current conn | opened conn _ => simpa only [hopening] using hnext (some conn)
    | unreachable => simpa only [hopening] using hnext none
    | failed ec =>
      simp only [hopening]
      exact ⟨⟨Or.inl rfl, Nat.zero_lt_one⟩, fun _ _ => hnext none⟩
  · exact hnext none

/-- Packages come from the data processor only, and ticks from the timer. -/
theorem clientSends_source {source : Source portCount} {message : Message Conn}
    (h : clientSends source message) :
    (message.msgType = .sendPackage → source = .dataProcessor) ∧
      (message.msgType = .timer → source = .pollTimer) := by
  rcases h with hsends | ⟨hsource, hpackage⟩
  · cases source <;> cases message <;> simp_all [Source.sends, Message.msgType]
  · refine ⟨fun _ => hsource, fun htimer => ?_⟩
    rw [hpackage] at htimer
    cases htimer

/-- **The client's handlers descend.** -/
theorem descends (order : List (Subscriber portCount)) :
    Descends clientSends clientRank (H.subscribers order) := by
  intro subscriber source message hsends _
  obtain ⟨hpackage, htimer⟩ := clientSends_source hsends
  cases subscriber with
  | shutdownHandler | pollTimer | portWorker port =>
    cases message <;> first | trivial | exact fun _ => trivial
  | tcpTransport =>
    cases message with
    | sendPackage useTCP =>
      cases hpackage rfl
      cases useTCP with
      | false => trivial
      | true => exact getTcpConnection_only H (sendWith_only H.tcp)
    | _ => trivial
  | udpTransport =>
    cases message with
    | sendPackage useTCP =>
      cases hpackage rfl
      cases useTCP with
      | true => trivial
      | false =>
        change SendsOnly _ (if H.udpEnabled then H.getUdpConnection (Handlers.sendWith H.udp)
          else .done)
        split
        · exact getUdpConnection_only H (sendWith_only H.udp)
        · trivial
    | connected udpPort => exact fun _ => trivial
    | _ => trivial
  | dataProcessor =>
    cases message with
    | timer counter =>
      cases htimer rfl
      exact fun _ => ⟨⟨Or.inr ⟨rfl, rfl⟩, Nat.one_lt_two⟩, fun _ => trivial⟩
    | incomingPackage package => exact fun _ => trivial
    | _ => trivial

/-- What the threads of the client send by themselves. -/
def ClientEvent : BrokerEvent Tid (Source portCount) (Message Conn) → Prop
  | .call _ source message => source.sends message.msgType = true
  | .run _ => True

theorem ClientEvent.sent {e : BrokerEvent Tid (Source portCount) (Message Conn)}
    (h : ClientEvent e) : Sent clientSends e := by
  cases e with
  | call thread source message => exact Or.inl h
  | run thread => trivial

variable [DecidableEq Tid]

/-- **No message of the client is dropped.** Whatever its threads send, and however they take
turns, the debug build refuses nothing, no more than three calls are active on a thread, and
both builds take the same runs. -/
theorem client_messages (order : List (Subscriber portCount)) (shared : σ)
    (es : List (BrokerEvent Tid (Source portCount) (Message Conn)))
    (hclient : ∀ e ∈ es, ClientEvent e) :
    (∀ s, exec (step (debugBuild Tid (Source portCount)) (H.subscribers order))
        (init (Callers.empty Tid (Source portCount)) shared) es = some s →
      Along (step (debugBuild Tid (Source portCount)) (H.subscribers order)) NotAgain
        (init (Callers.empty Tid (Source portCount)) shared) es ∧
      (∀ thread, (s.calls thread).length ≤ 3) ∧
      exec (step (ndebugBuild Tid (Source portCount)) (H.subscribers order)) (init () shared) es =
        some (release s)) ∧
    (∀ s', exec (step (ndebugBuild Tid (Source portCount)) (H.subscribers order))
        (init () shared) es = some s' →
      ∃ s, exec (step (debugBuild Tid (Source portCount)) (H.subscribers order))
        (init (Callers.empty Tid (Source portCount)) shared) es = some s ∧ release s = s') := by
  have hsent : ∀ e ∈ es, Sent clientSends e := fun e he => (hclient e he).sent
  have hbooked := @booked_init Tid σ (Source portCount) (Message Conn) (Subscriber portCount) _
    shared
  have hsame : init () shared = release (init (Callers.empty Tid (Source portCount)) shared :
    DebugBroker Tid σ (Source portCount) (Message Conn) (Subscriber portCount)) := rfl
  constructor
  · intro s hrun
    obtain ⟨hranked, halong⟩ := ranked_of_run (descends H order) (ranked_init _ shared) hsent hrun
    refine ⟨halong, fun thread => (hranked thread).length_le ?_, ?_⟩
    · intro g _
      cases g.source <;> simp [clientRank]
    · rw [hsame, release_exec hbooked halong, hrun, Option.map_some]
  · intro s' hrun
    have halong := (ranked_of_run (descends H order) (ranked_init () shared) hsent hrun).2
    rw [hsame] at hrun halong
    rw [release_exec hbooked (along_release hbooked halong)] at hrun
    exact Option.map_eq_some_iff.mp hrun

/-- **Each `SendMessage` of the client returns**, in each build, if its thread goes on again and
again. -/
theorem client_returns (order : List (Subscriber portCount)) (build : Build Tid (Source portCount)
    β κ) (book : β) (shared : σ)
    (run : Nat → MessageBroker Tid σ (Source portCount) (Message Conn) (Subscriber portCount) β κ)
    (schedule : Nat → BrokerEvent Tid (Source portCount) (Message Conn)) (thread : Tid)
    (hstart : run 0 = init book shared) (hclient : ∀ i, ClientEvent (schedule i))
    (hrun : ∀ i, step build (H.subscribers order) (run i) (schedule i) = some (run (i + 1)))
    (hfair : ∀ i, ∃ j, i ≤ j ∧ (schedule j).thread = thread) (i : Nat)
    (hactive : (run i).calls thread ≠ []) :
    ∃ j, i ≤ j ∧ ((run j).calls thread).length < ((run i).calls thread).length :=
  ranked_returns (descends H order) (hstart ▸ ranked_init book shared)
    (fun i => (hclient i).sent) hrun hfair hactive

end ClientHandlers

/-! ## A client of one port -/

section OnePort

/-- Handlers of a client that has a connection already. -/
def connectedHandlers : Handlers 1 Unit Unit where
  tcp := { connect := id, opening := fun _ => .current (), drop := id, send := fun _ => id }
  udp := { connect := id, opening := fun _ => .current (), drop := id, send := fun _ => id }
  udpEnabled := false
  resetUdp := fun _ => id
  connectDone := id
  pollPorts := fun _ => id
  useTCP := fun _ _ => false
  pushPorts := fun _ => id
  openPort := fun _ _ _ => id
  connectedPort := fun _ => id
  shutDown := fun _ => id

/-- A tick from its call to its return. -/
def oneTick : List (BrokerEvent Unit (Source 1) (Message Unit)) :=
  .call () .pollTimer (.timer 1) :: List.replicate 10 (.run ())

theorem client_messages_tick :
    ∃ s, exec (step (debugBuild Unit (Source 1))
        (connectedHandlers.subscribers [.tcpTransport, .dataProcessor]))
        (init (Callers.empty Unit (Source 1)) ()) oneTick = some s ∧ s.calls () = [] ∧
      Along (step (debugBuild Unit (Source 1))
        (connectedHandlers.subscribers [.tcpTransport, .dataProcessor])) NotAgain
        (init (Callers.empty Unit (Source 1)) ()) oneTick := by
  have hmain := (client_messages connectedHandlers [.tcpTransport, .dataProcessor] ()
    oneTick (List.forall_mem_cons.mpr ⟨rfl, fun e he => List.eq_of_mem_replicate he ▸ trivial⟩)).1
  exact ⟨_, rfl, rfl, (hmain _ rfl).1⟩

/-- A timer that sends a tick whenever the last one has been handled. -/
def tick (s : DebugBroker Unit Unit (Source 1) (Message Unit) (Subscriber 1)) :
    BrokerEvent Unit (Source 1) (Message Unit) :=
  match s.calls () with
  | [] => .call () .pollTimer (.timer 1)
  | _ :: _ => .run ()

/-- The timer's run. -/
def ticking : Nat → DebugBroker Unit Unit (Source 1) (Message Unit) (Subscriber 1)
  | 0 => init (Callers.empty Unit (Source 1)) ()
  | i + 1 => ((step (debugBuild Unit (Source 1))
      (connectedHandlers.subscribers [.tcpTransport, .dataProcessor]) (ticking i)
        (tick (ticking i))).getD (ticking i))

theorem ticking_step (i : Nat) : step (debugBuild Unit (Source 1))
    (connectedHandlers.subscribers [.tcpTransport, .dataProcessor]) (ticking i)
      (tick (ticking i)) = some (ticking (i + 1)) := by
  rw [ticking]
  unfold tick
  cases hcalls : (ticking i).calls () with
  | nil => simp only [step, hcalls, Option.getD_some]
  | cons f fs =>
    obtain ⟨u, hu⟩ := @exists_step Unit Unit (Source 1) (Message Unit) (Subscriber 1) _ _ _
      (debugBuild Unit (Source 1)) (connectedHandlers.subscribers [.tcpTransport, .dataProcessor])
      (ticking i) () (hcalls ▸ List.cons_ne_nil f fs)
    rw [hu, Option.getD_some]

theorem tick_client (s : DebugBroker Unit Unit (Source 1) (Message Unit) (Subscriber 1)) :
    ClientEvent (tick s) := by
  unfold tick
  split
  · exact rfl
  · trivial

theorem client_returns_tick : ∃ j, 1 ≤ j ∧
    ((ticking j).calls ()).length < ((ticking 1).calls ()).length :=
  client_returns connectedHandlers [.tcpTransport, .dataProcessor] (debugBuild Unit (Source 1))
    (Callers.empty Unit (Source 1)) () ticking (fun i => tick (ticking i)) () rfl
    (fun i => tick_client (ticking i)) ticking_step (fun i => ⟨i, le_rfl, rfl⟩) 1
    (List.cons_ne_nil _ _)

end OnePort

end UartBridge.Broker

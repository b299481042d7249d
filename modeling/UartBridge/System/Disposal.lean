import Mathlib.Data.List.Induction
import Mathlib.Data.List.Nodup
import UartBridge.Lib.Run
import UartBridge.Client.Connection

/-!
# Disposing connections

All connections of one kind, the static variable they share and the `close`
calls made so far, under any sequence of constructions and `Dispose` calls.

The shared variable is false until a connection is disposed a second time; that
call makes it true (`Tracks.repeated`), and whatever the next `Dispose` call
does is wrong: on a live connection it does nothing, on a disposed one it closes
the descriptor once more (`Tracks.after_repeated`). Hence disposal works as
meant exactly when no call follows a repeated one.
-/

namespace UartBridge.Disposal

open Client EventRun

/-- A class of connections: its constructor, and its `Dispose` on top of the
base object's. -/
structure Kind (κ : Type) where
  Args : Type
  create : Args → κ
  base : κ → Connection
  dispose : Bool → κ → κ × Bool × Bool
  create_base : ∀ args, (base (create args)).isDisposed = false
  dispose_base : ∀ falseVal c,
    (base (dispose falseVal c).1, (dispose falseVal c).2) = (base c).dispose falseVal

/-- `TCPConnection`: a descriptor and the port offered for UDP. -/
def tcpKind : Kind TCPConnection where
  Args := Nat × UInt16
  create args := TCPConnection.create args.1 args.2
  base := TCPConnection.toConnection
  dispose := TCPConnection.dispose
  create_base _ := rfl
  dispose_base _ _ := rfl

/-- `UDPConnection`: a descriptor and the remote port. -/
def udpKind : Kind UDPConnection where
  Args := Nat × UInt16
  create args := UDPConnection.create args.1 args.2
  base := UDPConnection.toConnection
  dispose := UDPConnection.dispose
  create_base _ := rfl
  dispose_base _ _ := rfl

variable {κ : Type}

/-- All connections made so far, by identity; the shared variable; the
connections whose descriptor was closed, one entry a call. -/
structure World (κ : Type) where
  conns : List κ
  falseVal : Bool
  closed : List ConnId

inductive Event (k : Kind κ) where
  | construct (args : k.Args)
  | dispose (id : ConnId)

def init : World κ := { conns := [], falseVal := false, closed := [] }

/-- One construction, or one `Dispose` call on an existing connection. -/
def step (k : Kind κ) (s : World κ) : Event k → Option (World κ)
  | .construct args => some { s with conns := s.conns ++ [k.create args] }
  | .dispose id =>
    match s.conns[id]? with
    | none => none
    | some c =>
      some { conns := s.conns.set id (k.dispose s.falseVal c).1
             falseVal := (k.dispose s.falseVal c).2.1
             closed := if (k.dispose s.falseVal c).2.2 then s.closed ++ [id] else s.closed }

/-- `GetStatus` of a connection. -/
def getStatus (k : Kind κ) (s : World κ) (id : ConnId) : Bool :=
  match s.conns[id]? with
  | some c => (k.base c).getStatus
  | none => false

/-- The connections disposed by a sequence, in the order of the calls. -/
def disposals {k : Kind κ} (es : List (Event k)) : List ConnId :=
  es.filterMap fun
    | .construct _ => none
    | .dispose id => some id

/-- Disposal as meant: right after a call the connection reports that it is
gone, and over the whole sequence each connection that was disposed was closed
once and no other was closed. -/
structure DisposedOnce (k : Kind κ) (es : List (Event k)) : Prop where
  status : ∀ before id after s, es = before ++ .dispose id :: after →
    exec (step k) init (before ++ [.dispose id]) = some s → getStatus k s id = false
  closed : ∀ s, exec (step k) init es = some s → ∀ id, id < s.conns.length →
    s.closed.count id = if id ∈ disposals es then 1 else 0

/-! ## One call -/

/-- The connections in `gone`, and no others, are disposed, each was closed once
in that order, and the shared variable is `falseVal`. -/
structure Tracks (k : Kind κ) (s : World κ) (gone : List ConnId) (falseVal : Bool) : Prop where
  falseVal_eq : s.falseVal = falseVal
  closed_eq : s.closed = gone
  disposed_iff : ∀ id c, s.conns[id]? = some c → ((k.base c).isDisposed = true ↔ id ∈ gone)
  gone_lt : ∀ id ∈ gone, id < s.conns.length

variable {k : Kind κ} {s t : World κ} {gone : List ConnId} {falseVal : Bool} {id : ConnId}

theorem Tracks.start : Tracks k (init : World κ) [] false :=
  ⟨rfl, rfl, fun _ _ h => by simp [init] at h, fun _ h => by simp at h⟩

/-- A `Dispose` call happens on an existing connection. -/
theorem step_dispose (hstep : step k s (.dispose id) = some t) :
    ∃ c, s.conns[id]? = some c ∧
      t = { conns := s.conns.set id (k.dispose s.falseVal c).1
            falseVal := (k.dispose s.falseVal c).2.1
            closed := if (k.dispose s.falseVal c).2.2 then s.closed ++ [id] else s.closed } := by
  simp only [step] at hstep
  cases hc : s.conns[id]? with
  | none => rw [hc] at hstep; cases hstep
  | some c =>
    rw [hc, Option.some.injEq] at hstep
    exact ⟨c, rfl, hstep.symm⟩

/-- A new connection is live. -/
theorem Tracks.constructed (h : Tracks k s gone falseVal) (args : k.Args) :
    Tracks k { s with conns := s.conns ++ [k.create args] } gone falseVal := by
  refine ⟨h.falseVal_eq, h.closed_eq, ?_, ?_⟩
  · intro id c hc
    rcases Nat.lt_trichotomy id s.conns.length with hlt | heq | hgt
    · rw [List.getElem?_append_left hlt] at hc
      exact h.disposed_iff id c hc
    · subst heq
      rw [List.getElem?_concat_length, Option.some.injEq] at hc
      rw [← hc, k.create_base]
      constructor
      · intro hfalse; cases hfalse
      · intro hmem
        exact absurd (h.gone_lt _ hmem) (Nat.lt_irrefl _)
    · rw [List.getElem?_eq_none (by simp; omega)] at hc
      cases hc
  · intro id hid
    rw [List.length_append]
    exact Nat.lt_add_right _ (h.gone_lt id hid)

/-- One call on a connection whose flag is `v`, with the shared variable `e`: the
flag becomes `v || !e`, the variable becomes `v`, and `close` is called when the
two were equal. -/
theorem dispose_cases (k : Kind κ) (e : Bool) (c : κ) :
    (k.base (k.dispose e c).1).isDisposed = ((k.base c).isDisposed || !e) ∧
      (k.dispose e c).2.1 = (k.base c).isDisposed ∧
      (k.dispose e c).2.2 = ((k.base c).isDisposed == e) := by
  have h := k.dispose_base e c
  rw [Prod.mk.injEq] at h
  rw [h.1, h.2]
  unfold Connection.dispose compareExchangeStrong
  cases (k.base c).isDisposed <;> cases e <;> exact ⟨rfl, rfl, rfl⟩

/-- The flags after a call: only the disposed connection's may change. -/
theorem disposed_after (hstep : step k s (.dispose id) = some t) {j : ConnId} {d : κ}
    (hd : t.conns[j]? = some d) :
    ∃ c, s.conns[j]? = some c ∧
      (k.base d).isDisposed =
        if j = id then (k.base c).isDisposed || !s.falseVal else (k.base c).isDisposed := by
  obtain ⟨c, hc, rfl⟩ := step_dispose hstep
  by_cases hj : id = j
  · subst hj
    have hlt := (List.getElem?_eq_some_iff.mp hc).1
    simp only [List.getElem?_set_self hlt, Option.some.injEq] at hd
    refine ⟨c, hc, ?_⟩
    rw [← hd, if_pos rfl]
    exact (dispose_cases k s.falseVal c).1
  · simp only [List.getElem?_set_ne hj] at hd
    exact ⟨d, hd, (if_neg (Ne.symm hj)).symm⟩

/-- A first `Dispose` call on a connection, with the variable still false. -/
theorem Tracks.fresh (h : Tracks k s gone false) (hid : id ∉ gone)
    (hstep : step k s (.dispose id) = some t) : Tracks k t (gone ++ [id]) false := by
  have flags := fun j d => disposed_after (j := j) (d := d) hstep
  obtain ⟨c, hc, rfl⟩ := step_dispose hstep
  have hlive : (k.base c).isDisposed = false := by
    have := (h.disposed_iff id c hc).not.mpr hid
    simpa using this
  obtain ⟨-, hvar, hclose⟩ := dispose_cases k s.falseVal c
  refine ⟨hvar.trans hlive, ?_, ?_, ?_⟩
  · dsimp only
    rw [hclose, hlive, h.falseVal_eq, h.closed_eq]
    rfl
  · intro j d hd
    obtain ⟨c', hc', hflag⟩ := flags j d hd
    rw [hflag, List.mem_append, List.mem_singleton, ← h.disposed_iff j c' hc', h.falseVal_eq]
    by_cases hji : j = id
    · simp [hji]
    · simp [hji]
  · intro j hj
    rw [List.length_set]
    rcases List.mem_append.mp hj with hold | hnew
    · exact h.gone_lt j hold
    · rw [List.mem_singleton.mp hnew]
      exact (List.getElem?_eq_some_iff.mp hc).1

/-- A second `Dispose` call on a connection changes the shared variable. -/
theorem Tracks.repeated (h : Tracks k s gone false) (hid : id ∈ gone)
    (hstep : step k s (.dispose id) = some t) : Tracks k t gone true := by
  have flags := fun j d => disposed_after (j := j) (d := d) hstep
  obtain ⟨c, hc, rfl⟩ := step_dispose hstep
  have hgone : (k.base c).isDisposed = true := (h.disposed_iff id c hc).mpr hid
  obtain ⟨-, hvar, hclose⟩ := dispose_cases k s.falseVal c
  refine ⟨hvar.trans hgone, ?_, ?_, ?_⟩
  · dsimp only
    rw [hclose, hgone, h.falseVal_eq, h.closed_eq]
    rfl
  · intro j d hd
    obtain ⟨c', hc', hflag⟩ := flags j d hd
    rw [hflag, ← h.disposed_iff j c' hc', h.falseVal_eq]
    by_cases hji : j = id
    · subst hji
      rw [hc, Option.some.injEq] at hc'
      simp [← hc', hgone]
    · simp [hji]
  · intro j hj
    rw [List.length_set]
    exact h.gone_lt j hj

/-- **The call after a repeated one goes wrong**: it closes a descriptor once
more, or leaves a live connection live. -/
theorem Tracks.after_repeated (h : Tracks k s gone true)
    (hstep : step k s (.dispose id) = some t) :
    id ∈ gone ∧ t.closed = gone ++ [id] ∨ getStatus k t id = true := by
  obtain ⟨c, hc, rfl⟩ := step_dispose hstep
  obtain ⟨hflag, -, hclose⟩ := dispose_cases k s.falseVal c
  by_cases hid : id ∈ gone
  · have hgone : (k.base c).isDisposed = true := (h.disposed_iff id c hc).mpr hid
    refine Or.inl ⟨hid, ?_⟩
    dsimp only
    rw [hclose, hgone, h.falseVal_eq, h.closed_eq]
    rfl
  · have hlive : (k.base c).isDisposed = false := by
      have := (h.disposed_iff id c hc).not.mpr hid
      simpa using this
    right
    have hlt := (List.getElem?_eq_some_iff.mp hc).1
    simp only [getStatus, List.getElem?_set_self hlt, Connection.getStatus]
    rw [hflag, hlive, h.falseVal_eq]
    rfl

/-! ## Whole sequences -/

theorem disposals_append (es fs : List (Event k)) :
    disposals (es ++ fs) = disposals es ++ disposals fs :=
  List.filterMap_append

@[simp] theorem disposals_construct (args : k.Args) : disposals [Event.construct args] = [] := rfl

@[simp] theorem disposals_dispose (id : ConnId) :
    disposals [(Event.dispose id : Event k)] = [id] := rfl

/-- While no connection is disposed twice, each call does what it should. -/
theorem run_tracks {es : List (Event k)} (hrun : exec (step k) init es = some s)
    (hnodup : (disposals es).Nodup) : Tracks k s (disposals es) false := by
  induction es using List.reverseRecOn generalizing s with
  | nil =>
    rw [exec_nil, Option.some.injEq] at hrun
    exact hrun ▸ Tracks.start
  | append_singleton es e ih =>
    obtain ⟨r, hes, hlast⟩ := exec_append_eq_some.mp hrun
    obtain ⟨u, hstep, hu⟩ := exec_cons_eq_some.mp hlast
    rw [exec_nil, Option.some.injEq] at hu
    subst hu
    rw [disposals_append] at hnodup ⊢
    have hr := ih hes (List.nodup_append.mp hnodup).1
    cases e with
    | construct args =>
      rw [disposals_construct, List.append_nil]
      simp only [step, Option.some.injEq] at hstep
      exact hstep ▸ hr.constructed args
    | dispose id =>
      rw [disposals_dispose] at hnodup ⊢
      exact hr.fresh (fun hmem => (List.nodup_append.mp hnodup).2.2 id hmem id (by simp) rfl) hstep

/-- A repeated call that nothing but constructions follow leaves the shared
variable true and everything else as it was. -/
theorem run_tracks_repeated {es : List (Event k)} (hrun : exec (step k) init es = some s)
    (hsplit : disposals es = gone ++ [id]) (hnodup : gone.Nodup) (hid : id ∈ gone) :
    Tracks k s gone true := by
  induction es using List.reverseRecOn generalizing s with
  | nil => simp [disposals] at hsplit
  | append_singleton es e ih =>
    obtain ⟨r, hes, hlast⟩ := exec_append_eq_some.mp hrun
    obtain ⟨u, hstep, hu⟩ := exec_cons_eq_some.mp hlast
    rw [exec_nil, Option.some.injEq] at hu
    subst hu
    rw [disposals_append] at hsplit
    cases e with
    | construct args =>
      rw [disposals_construct, List.append_nil] at hsplit
      simp only [step, Option.some.injEq] at hstep
      exact hstep ▸ (ih hes hsplit).constructed args
    | dispose d =>
      rw [disposals_dispose] at hsplit
      obtain ⟨hgone, hd⟩ := List.append_inj' hsplit rfl
      rw [List.cons.injEq] at hd
      rw [hd.1] at hstep
      subst hgone
      exact (run_tracks hes hnodup).repeated hid hstep

/-- `close` calls are never taken back, and connections stay. -/
theorem run_grows {es : List (Event k)} (hrun : exec (step k) s es = some t) :
    s.closed <+: t.closed ∧ s.conns.length ≤ t.conns.length := by
  refine exec_invariant (fun u => s.closed <+: u.closed ∧ s.conns.length ≤ u.conns.length)
    ?_ ⟨List.prefix_refl _, Nat.le_refl _⟩ hrun
  intro u e v hu hstep
  cases e with
  | construct args =>
    simp only [step, Option.some.injEq] at hstep
    subst hstep
    refine ⟨hu.1, ?_⟩
    rw [List.length_append]
    exact Nat.le_add_right_of_le hu.2
  | dispose id =>
    obtain ⟨c, -, rfl⟩ := step_dispose hstep
    refine ⟨?_, ?_⟩
    · dsimp only
      split
      · exact hu.1.trans (List.prefix_append _ _)
      · exact hu.1
    · rw [List.length_set]
      exact hu.2

/-- The call that a position of the disposal list stands for. -/
theorem exists_call {es : List (Event k)} {before after : List ConnId}
    (hsplit : disposals es = before ++ id :: after) :
    ∃ fs gs, es = fs ++ .dispose id :: gs ∧ disposals fs = before := by
  obtain ⟨fs, rest, rfl, hfs, hrest⟩ := List.filterMap_eq_append_iff.mp hsplit
  obtain ⟨cs, e, gs, rfl, hcs, he, -⟩ := List.filterMap_eq_cons_iff.mp hrest
  cases e with
  | construct args => cases he
  | dispose d =>
    rw [Option.some.injEq] at he
    subst he
    refine ⟨fs ++ cs, gs, by simp, ?_⟩
    have hnone : disposals cs = [] := List.filterMap_eq_nil_iff.mpr hcs
    rw [disposals_append, hnone, List.append_nil]
    exact hfs

/-- A list with a repetition repeats for the first time somewhere. -/
theorem exists_first_repeat {xs : List ConnId} (hrep : ¬ xs.Nodup) :
    ∃ before x after, xs = before ++ x :: after ∧ before.Nodup ∧ x ∈ before := by
  induction xs using List.reverseRecOn with
  | nil => exact absurd List.nodup_nil hrep
  | append_singleton xs x ih =>
    by_cases hxs : xs.Nodup
    · refine ⟨xs, x, [], rfl, hxs, ?_⟩
      by_contra hx
      exact hrep (List.concat_eq_append ▸ List.Nodup.concat hx hxs)
    · obtain ⟨before, y, after, rfl, hnodup, hy⟩ := ih hxs
      exact ⟨before, y, after ++ [x], by simp, hnodup, hy⟩

/-- With a call after a repeated one, disposal goes wrong. -/
theorem not_disposedOnce {es : List (Event k)} (hrun : exec (step k) init es = some s)
    (hrep : ¬ (disposals es).dropLast.Nodup) : ¬ DisposedOnce k es := by
  intro hgood
  obtain ⟨before, x, after, hdrop, hnodup, hx⟩ := exists_first_repeat hrep
  have hne : disposals es ≠ [] := by
    intro hnil
    rw [hnil] at hrep
    exact hrep List.nodup_nil
  -- the repeated call on `x` is followed by a call on some `y`
  obtain ⟨y, rest, htail⟩ : ∃ y rest, after ++ [(disposals es).getLast hne] = y :: rest :=
    List.exists_cons_of_ne_nil (by simp)
  have hlist : disposals es = (before ++ [x]) ++ y :: rest := by
    rw [← List.dropLast_append_getLast hne, hdrop, List.append_assoc, List.cons_append, htail]
    simp
  obtain ⟨fs, gs, hes, hfs⟩ := exists_call hlist
  rw [hes, List.append_cons] at hrun
  obtain ⟨u, hu, hgs⟩ := exec_append_eq_some.mp hrun
  obtain ⟨r, hr, hlast⟩ := exec_append_eq_some.mp hu
  obtain ⟨u', hstep, hu'⟩ := exec_cons_eq_some.mp hlast
  rw [exec_nil, Option.some.injEq] at hu'
  subst hu'
  have hr := run_tracks_repeated hr hfs hnodup hx
  rcases hr.after_repeated hstep with ⟨hy, hclosed⟩ | hstatus
  · -- closed twice, and nothing takes a `close` back
    obtain ⟨⟨more, hmore⟩, hlen⟩ := run_grows hgs
    have hbound : y < s.conns.length := by
      obtain ⟨c, hc, rfl⟩ := step_dispose hstep
      rw [List.length_set] at hlen
      exact Nat.lt_of_lt_of_le (List.getElem?_eq_some_iff.mp hc).1 hlen
    have hcount := hgood.closed s (by rw [hes, List.append_cons]; exact hrun) y hbound
    have hmem : y ∈ disposals es := by rw [hlist]; simp
    have honce : 1 ≤ before.count y := List.count_pos_iff.mpr hy
    rw [if_pos hmem, ← hmore, hclosed] at hcount
    simp only [List.count_append, List.count_cons_self, List.count_nil] at hcount
    omega
  · have hdead := hgood.status fs y gs u' hes hu
    rw [hstatus] at hdead
    cases hdead

/-- Without one, disposal works as meant. -/
theorem disposedOnce_of_nodup {es : List (Event k)} (hrun : exec (step k) init es = some s)
    (hnodup : (disposals es).dropLast.Nodup) : DisposedOnce k es := by
  have dead {t : World κ} {gone : List ConnId} {e : Bool} (ht : Tracks k t gone e) {id : ConnId}
      (hid : id ∈ gone) : getStatus k t id = false := by
    unfold getStatus
    cases hc : t.conns[id]? with
    | none => rfl
    | some c => simp [Connection.getStatus, (ht.disposed_iff id c hc).mpr hid]
  refine ⟨?_, ?_⟩
  · intro before id after t hes ht
    have hlist : disposals (before ++ [.dispose id]) = disposals before ++ [id] := by
      rw [disposals_append, disposals_dispose]
    have hfull : disposals es = disposals before ++ id :: disposals after := by
      rw [hes, disposals_append]
      rfl
    by_cases hfresh : (disposals before ++ [id]).Nodup
    · exact dead (run_tracks ht (hlist ▸ hfresh)) (by rw [hlist]; simp)
    · -- a repeated call: everything before it was fresh
      have hbefore : (disposals before).Nodup := by
        refine hnodup.sublist ?_
        rw [hfull, List.dropLast_append_cons]
        exact List.sublist_append_left _ _
      have hmem : id ∈ disposals before := by
        by_contra hid
        exact hfresh (List.concat_eq_append ▸ List.Nodup.concat hid hbefore)
      exact dead (run_tracks_repeated ht hlist hbefore hmem) hmem
  · intro t ht id hid
    rw [hrun, Option.some.injEq] at ht
    subst ht
    by_cases hall : (disposals es).Nodup
    · rw [(run_tracks hrun hall).closed_eq]
      by_cases hmem : id ∈ disposals es
      · rw [if_pos hmem]
        exact List.count_eq_one_of_mem hall hmem
      · rw [if_neg hmem]
        exact List.count_eq_zero_of_not_mem hmem
    · have hne : disposals es ≠ [] := by
        intro hnil
        rw [hnil] at hall
        exact hall List.nodup_nil
      have hsplit := (List.dropLast_append_getLast hne).symm
      have hlast : (disposals es).getLast hne ∈ (disposals es).dropLast := by
        by_contra hnot
        exact hall (hsplit ▸ List.concat_eq_append ▸ List.Nodup.concat hnot hnodup)
      rw [(run_tracks_repeated hrun hsplit hnodup hlast).closed_eq]
      have hiff : id ∈ disposals es ↔ id ∈ (disposals es).dropLast := by
        constructor
        · intro hmem
          rw [hsplit] at hmem
          rcases List.mem_append.mp hmem with hinit | hend
          · exact hinit
          · rw [List.mem_singleton.mp hend]
            exact hlast
        · exact fun hmem => List.dropLast_subset _ hmem
      by_cases hmem : id ∈ (disposals es).dropLast
      · rw [if_pos (hiff.mpr hmem)]
        exact List.count_eq_one_of_mem hnodup hmem
      · rw [if_neg (fun h => hmem (hiff.mp h))]
        exact List.count_eq_zero_of_not_mem hmem

/-- **Disposal, exactly.** For either kind of connection and every sequence of
constructions and `Dispose` calls, disposal works as meant if and only if no
call follows a call on a connection that had been disposed before. -/
theorem disposedOnce_iff (tcpEvents : List (Event tcpKind)) (tcpWorld : World TCPConnection)
    (udpEvents : List (Event udpKind)) (udpWorld : World UDPConnection)
    (htcp : exec (step tcpKind) init tcpEvents = some tcpWorld)
    (hudp : exec (step udpKind) init udpEvents = some udpWorld) :
    (DisposedOnce tcpKind tcpEvents ↔ (disposals tcpEvents).dropLast.Nodup) ∧
      (DisposedOnce udpKind udpEvents ↔ (disposals udpEvents).dropLast.Nodup) := by
  constructor
  · exact ⟨fun hgood => by_contra fun hrep => not_disposedOnce htcp hrep hgood,
      disposedOnce_of_nodup htcp⟩
  · exact ⟨fun hgood => by_contra fun hrep => not_disposedOnce hudp hrep hgood,
      disposedOnce_of_nodup hudp⟩

/-- One connection disposed twice, with nothing after it, and the same with a
third call. -/
theorem disposedOnce_iff_twice :
    DisposedOnce tcpKind [.construct (4, 49152), .dispose 0, .dispose 0] ∧
      ¬ DisposedOnce udpKind [.construct (4, 49152), .dispose 0, .dispose 0, .dispose 0] := by
  have h := disposedOnce_iff [.construct (4, 49152), .dispose 0, .dispose 0] _
    [.construct (4, 49152), .dispose 0, .dispose 0, .dispose 0] _ rfl rfl
  exact ⟨h.1.mpr (by decide), fun hgood => absurd (h.2.mp hgood) (by decide)⟩

/-- Disposing connection 0 twice and then connection 1 leaves connection 1 alive. -/
theorem dispose_after_repeat_fails :
    ¬ DisposedOnce tcpKind
      [.construct (4, 49152), .construct (5, 49153), .dispose 0, .dispose 0, .dispose 1] := by
  intro hgood
  have hstatus := hgood.status
    [.construct (4, 49152), .construct (5, 49153), .dispose 0, .dispose 0] 1 [] _ rfl rfl
  cases hstatus

end UartBridge.Disposal

import Mathlib.Data.List.Flatten
import Mathlib.Data.List.Forall2
import UartBridge.System.CounterField

/-!
# Packages over reconnects

Without UDP the client's packages go over one TCP connection after another, and each connection
that is lost takes some of them with it. The threads that connect, poll and receive and the
firmware's loop are interleaved in any way.

* `ConnInOrder` — what is on its way on one connection, against all that was sent on it;
* `InOrder` — the invariant: what was sent comes from what was built, connection by connection,
  and what the firmware took is the first part of each;
* `packages_in_order` — no package is processed twice, or before one that was built earlier, and
  those that are lost are the last ones of a connection, or were never sent.
-/

namespace UartBridge.Reconnect

open EventRun Client Firmware CounterField

variable {size fwSize : Nat}

/-! ## What the client did -/

/-- A package is finished, or written to a connection, with the header as it is sent. -/
inductive Deed where
  | built (p : Package)
  | sent (id : Nat) (p : Package)

/-- A package with the header that the TCP transport writes into it. -/
def stamped (D : Deployment) (udpTransportPort : UInt16) (p : Package) : Package :=
  { p with bytes := TCPTransport.stampPackage D.config udpTransportPort p.bytes }

/-- What the client does in a step. -/
def deed (D : Deployment) (s : State size fwSize) : Event → List Deed
  | .pollFinish =>
    match s.poll with
    | none => []
    | some poll => [.built { bytes := (DataProcessor.pollFinish D.config s.txBuff poll).1
                             openTriggered := poll.openTriggered, counter := poll.counter }]
  | .send udpTransportPort true =>
    match s.built, s.current with
    | some p, some id => [.sent id (stamped D udpTransportPort p)]
    | _, _ => []
  | _ => []

def builtIn (log : List Deed) : List Package :=
  log.filterMap fun
    | .built p => some p
    | .sent _ _ => none

def sentIn (log : List Deed) : List Package :=
  log.filterMap fun
    | .built _ => none
    | .sent _ p => some p

/-- What was sent on one connection. -/
def sentOn (log : List Deed) (id : Nat) : List Package :=
  log.filterMap fun
    | .built _ => none
    | .sent i p => if i = id then some p else none

section Log

variable (log : List Deed) (p : Package) (id : Nat)

theorem builtIn_built : builtIn (log ++ [.built p]) = builtIn log ++ [p] := by
  simp [builtIn]

theorem builtIn_sent : builtIn (log ++ [.sent id p]) = builtIn log := by
  simp [builtIn]

theorem sentIn_built : sentIn (log ++ [.built p]) = sentIn log := by
  simp [sentIn]

theorem sentIn_sent : sentIn (log ++ [.sent id p]) = sentIn log ++ [p] := by
  simp [sentIn]

theorem sentOn_built : sentOn (log ++ [.built p]) id = sentOn log id := by
  simp [sentOn]

theorem sentOn_sent : sentOn (log ++ [.sent id p]) id = sentOn log id ++ [p] := by
  simp [sentOn]

theorem sentOn_other {other : Nat} (hne : id ≠ other) :
    sentOn (log ++ [.sent id p]) other = sentOn log other := by
  simp [sentOn, hne]

end Log

/-! ## One connection -/

/-- What is on its way on a connection is the first part of what is to come; on the client's
current one, all of it. -/
structure ConnInOrder (sent : List Package) (current : Prop) (c : Conn) : Prop where
  taken_le : c.taken ≤ sent.length
  queue : c.queue <+: sent.drop c.taken
  whole : current → c.queue = sent.drop c.taken

namespace ConnInOrder

variable {sent : List Package} {current : Prop} {c : Conn}

theorem established (current : Prop) :
    ConnInOrder [] current { queue := [], sent := 0, taken := 0 } :=
  ⟨Nat.le_refl 0, List.prefix_rfl, fun _ => rfl⟩

theorem not_current (h : ConnInOrder sent current c) {current' : Prop}
    (hcurrent : current' → current) : ConnInOrder sent current' c :=
  ⟨h.taken_le, h.queue, fun hc => h.whole (hcurrent hc)⟩

/-- A package goes to the end of the current connection. -/
theorem send (h : ConnInOrder sent current c) (hcurrent : current) (p : Package) :
    ConnInOrder (sent ++ [p]) current { c with queue := c.queue ++ [p], sent := c.sent + 1 } := by
  have hqueue : c.queue ++ [p] = (sent ++ [p]).drop c.taken := by
    rw [List.drop_append_of_le_length h.taken_le, h.whole hcurrent]
  refine ⟨?_, hqueue ▸ List.prefix_rfl, fun _ => hqueue⟩
  rw [List.length_append]
  exact Nat.le_add_right_of_le h.taken_le

/-- The end of the queue is lost. -/
theorem cut (h : ConnInOrder sent current c) (hcurrent : ¬ current) (keep : Nat) :
    ConnInOrder sent current { c with queue := c.queue.take keep } :=
  ⟨h.taken_le, (List.take_prefix keep c.queue).trans h.queue, fun hc => absurd hc hcurrent⟩

/-- The firmware takes the oldest package, which is the next one that was sent. -/
theorem take (h : ConnInOrder sent current c) {p : Package} {queue : List Package}
    (hqueue : c.queue = p :: queue) :
    sent.take (c.taken + 1) = sent.take c.taken ++ [p] ∧
      ConnInOrder sent current { c with queue := queue, taken := c.taken + 1 } := by
  obtain ⟨rest, hrest⟩ := hqueue ▸ h.queue
  have hlt : c.taken < sent.length := by
    have hlen := congrArg List.length hrest
    rw [List.length_append, List.length_cons, List.length_drop] at hlen
    omega
  have hdrop := List.drop_eq_getElem_cons hlt
  have hcons : p :: (queue ++ rest) = sent[c.taken] :: sent.drop (c.taken + 1) := by
    rw [← List.cons_append, hrest, hdrop]
  obtain ⟨hp, htail⟩ := List.cons.inj hcons
  refine ⟨?_, hlt, ⟨rest, htail⟩, ?_⟩
  · rw [List.take_add_one, List.getElem?_eq_getElem hlt, hp]
    rfl
  · intro hcurrent
    have hwhole := h.whole hcurrent
    rw [hqueue, hdrop] at hwhole
    exact (List.cons.inj hwhole).2

end ConnInOrder

/-! ## The invariant -/

/-- How many packages the firmware has taken from a connection. -/
def takenFrom (conns : List Conn) (id : Nat) : Nat :=
  match conns[id]? with
  | some c => c.taken
  | none => 0

/-- What the firmware took, from the connections up to `count`. -/
def takenOn (log : List Deed) (conns : List Conn) (count : Nat) : List Package :=
  (List.range count).flatMap fun id => (sentOn log id).take (takenFrom conns id)

/-- What was sent, with the header it was built without. -/
def Stamped (D : Deployment) (q p : Package) : Prop :=
  ∃ udpTransportPort, q = stamped D udpTransportPort p

/-- What is known of the packages after a run that did `log`. -/
structure InOrder (D : Deployment) (log : List Deed) (s : State size fwSize) : Prop where
  /-- What was sent is among what was built, before the package that is still to be sent. -/
  built : ∃ kept, List.Forall₂ (Stamped D) (sentIn log) kept ∧
    List.Sublist (kept ++ s.built.toList) (builtIn log)
  current : ∀ id, s.current = some id → id + 1 = s.conns.length
  fresh : ∀ id, s.conns.length ≤ id → sentOn log id = []
  grouped : sentIn log = (List.range s.conns.length).flatMap (sentOn log)
  conns : ∀ id c, s.conns[id]? = some c → ConnInOrder (sentOn log id) (s.current = some id) c
  unserved : ∀ id c, s.conns[id]? = some c → s.nextAccept ≤ id → c.taken = 0
  serving : ∀ id, s.serving = some id → id + 1 = s.nextAccept
  accept_le : s.nextAccept ≤ s.conns.length
  processed : s.processed = takenOn log s.conns s.nextAccept

variable {D : Deployment} {portConfig : Nat → PortConfig} {log : List Deed}
  {s t : State size fwSize}

theorem InOrder.start (ports : List (PortWorker UInt8 size)) (fw : MainLoop fwSize) :
    InOrder D [] (init ports fw) where
  built := ⟨[], List.Forall₂.nil, List.Sublist.refl []⟩
  current := fun _ h => nomatch h
  fresh := fun _ _ => rfl
  grouped := rfl
  conns := fun _ _ h => nomatch h
  unserved := fun _ _ h => nomatch h
  serving := fun _ h => nomatch h
  accept_le := Nat.le_refl 0
  processed := rfl

/-! ## What was taken -/

theorem takenFrom_eq {conns : List Conn} {id : Nat} {c : Conn} (hc : conns[id]? = some c) :
    takenFrom conns id = c.taken := by
  rw [takenFrom, hc]

/-- What happens to a connection does not take anything from it. -/
theorem takenFrom_modify {conns : List Conn} {id id' : Nat} {f : Conn → Conn}
    (hf : ∀ c, (f c).taken = c.taken) :
    takenFrom (conns.modify id f) id' = takenFrom conns id' := by
  unfold takenFrom
  rw [List.getElem?_modify]
  cases conns[id']? with
  | none => rfl
  | some c =>
    simp only [Option.map_eq_map, Option.map_some]
    split
    · exact hf c
    · rfl

theorem takenFrom_other {conns : List Conn} {id id' : Nat} {f : Conn → Conn} (hne : id ≠ id') :
    takenFrom (conns.modify id f) id' = takenFrom conns id' := by
  unfold takenFrom
  rw [List.getElem?_modify]
  cases conns[id']? with
  | none => rfl
  | some c => simp only [Option.map_eq_map, Option.map_some, if_neg hne]

/-- What the firmware took is what it took from each connection. -/
theorem takenOn_congr {log' : List Deed} {conns conns' : List Conn} {count : Nat}
    (h : ∀ id, id < count → (sentOn log id).take (takenFrom conns id) =
      (sentOn log' id).take (takenFrom conns' id)) :
    takenOn log conns count = takenOn log' conns' count :=
  List.flatMap_congr fun id hid => h id (List.mem_range.mp hid)

/-- Nothing was taken from the connections that are passed over. -/
theorem takenOn_extend {conns : List Conn} {count count' : Nat} (hle : count ≤ count')
    (h : ∀ id, count ≤ id → id < count' → takenFrom conns id = 0) :
    takenOn log conns count' = takenOn log conns count := by
  induction hle with
  | refl => rfl
  | @step m hle ih =>
    have hm := h m hle (Nat.lt_succ_self m)
    calc takenOn log conns (m + 1)
        = takenOn log conns m ++ (sentOn log m).take (takenFrom conns m) := by
          rw [takenOn, List.range_succ, List.flatMap_append, List.flatMap_singleton]
          rfl
      _ = takenOn log conns m := by rw [hm, List.take_zero, List.append_nil]
      _ = takenOn log conns count :=
          ih fun id hid hlt => h id hid (Nat.lt_succ_of_lt hlt)

/-- **What the firmware took is part of what was sent**, in its order. -/
theorem InOrder.sublist (h : InOrder D log s) : List.Sublist s.processed (sentIn log) := by
  rw [h.processed, h.grouped]
  refine List.Sublist.trans ?_ ((List.range_sublist.mpr h.accept_le).flatMap (sentOn log))
  exact List.Sublist.flatMap_right _ fun id _ => List.take_sublist _ _

/-! ## One step -/

/-- The package that was built is given up, and maybe the connection as well. -/
theorem InOrder.give_up (h : InOrder D log s) {built : Option Package} {current : Option Nat}
    (hbuilt : List.Sublist built.toList s.built.toList)
    (hcurrent : ∀ id, current = some id → s.current = some id) (txBuff : Nat → UInt8)
    (poll : Option PollState) :
    InOrder D log
      { s with built := built, current := current, txBuff := txBuff, poll := poll } where
  built := by
    obtain ⟨kept, hkept, hsub⟩ := h.built
    exact ⟨kept, hkept, ((List.Sublist.refl kept).append hbuilt).trans hsub⟩
  current := fun id hid => h.current id (hcurrent id hid)
  fresh := h.fresh
  grouped := h.grouped
  conns := fun id c hc => (h.conns id c hc).not_current (hcurrent id)
  unserved := h.unserved
  serving := h.serving
  accept_le := h.accept_le
  processed := h.processed

/-- A connection is established, after all others. -/
theorem InOrder.connect (h : InOrder D log s) (notify : Option Nat) :
    InOrder D log { s with
      conns := s.conns ++ [{ queue := [], sent := 0, taken := 0 }]
      current := some s.conns.length
      notify := notify } := by
  have hlength : (s.conns ++ [Conn.mk [] 0 0]).length = s.conns.length + 1 := by
    rw [List.length_append, List.length_singleton]
  have hold (id : Nat) (hlt : id < s.conns.length) :
      (s.conns ++ [Conn.mk [] 0 0])[id]? = s.conns[id]? := List.getElem?_append_left hlt
  have hnew (id : Nat) (c : Conn) (hc : (s.conns ++ [Conn.mk [] 0 0])[id]? = some c) :
      id < s.conns.length ∧ s.conns[id]? = some c ∨
        id = s.conns.length ∧ c = { queue := [], sent := 0, taken := 0 } := by
    rcases Nat.lt_trichotomy id s.conns.length with hlt | rfl | hgt
    · exact Or.inl ⟨hlt, hold id hlt ▸ hc⟩
    · rw [List.getElem?_concat_length, Option.some.injEq] at hc
      exact Or.inr ⟨rfl, hc.symm⟩
    · rw [List.getElem?_eq_none (by rw [hlength]; exact hgt)] at hc
      cases hc
  refine ⟨h.built, ?_, ?_, ?_, ?_, ?_, h.serving, ?_, ?_⟩
  · intro id hid
    cases hid
    exact hlength.symm
  · intro id hid
    have hid' : (s.conns ++ [Conn.mk [] 0 0]).length ≤ id := hid
    rw [hlength] at hid'
    exact h.fresh id (Nat.le_of_succ_le hid')
  · -- nothing was sent on the new connection
    show sentIn log = (List.range (s.conns ++ [Conn.mk [] 0 0]).length).flatMap (sentOn log)
    rw [hlength, List.range_succ, List.flatMap_append, ← h.grouped, List.flatMap_singleton,
      h.fresh _ (Nat.le_refl _), List.append_nil]
  · intro id c hc
    rcases hnew id c hc with ⟨hlt, hc'⟩ | ⟨rfl, rfl⟩
    · refine (h.conns id c hc').not_current fun hid => ?_
      cases hid
      exact absurd hlt (Nat.lt_irrefl _)
    · rw [h.fresh _ (Nat.le_refl _)]
      exact ConnInOrder.established _
  · intro id c hc hle
    rcases hnew id c hc with ⟨-, hc'⟩ | ⟨-, rfl⟩
    · exact h.unserved id c hc' hle
    · rfl
  · exact hlength ▸ Nat.le_succ_of_le h.accept_le
  · refine h.processed.trans (takenOn_congr fun id hid => ?_)
    rw [takenFrom, takenFrom, hold id (Nat.lt_of_lt_of_le hid h.accept_le)]

/-- A package is finished. One that was not sent is lost. -/
theorem InOrder.pollFinish (h : InOrder D log s) (p : Package) (txBuff : Nat → UInt8) :
    InOrder D (log ++ [.built p])
      { s with txBuff := txBuff, poll := none, built := some p } where
  built := by
    obtain ⟨kept, hkept, hsub⟩ := h.built
    refine ⟨kept, (sentIn_built log p).symm ▸ hkept, ?_⟩
    rw [builtIn_built]
    exact ((List.sublist_append_left kept _).trans hsub).append (List.Sublist.refl [p])
  current := h.current
  fresh := fun id hid => (sentOn_built log p id).trans (h.fresh id hid)
  grouped := by
    have hfun : sentOn (log ++ [.built p]) = sentOn log := funext (sentOn_built log p)
    rw [hfun, sentIn_built]
    exact h.grouped
  conns := fun id c hc => (sentOn_built log p id).symm ▸ h.conns id c hc
  unserved := h.unserved
  serving := h.serving
  accept_le := h.accept_le
  processed := h.processed.trans (takenOn_congr fun id _ => by rw [sentOn_built])

/-- A package goes out on the current connection, which is the last one. -/
theorem InOrder.send (h : InOrder D log s) {p : Package} {id : Nat} (hbuilt : s.built = some p)
    (hcurrent : s.current = some id) (udpTransportPort : UInt16) :
    InOrder D (log ++ [.sent id (stamped D udpTransportPort p)])
      { s with
        built := none
        txBuff := TCPTransport.stampPackage D.config udpTransportPort p.bytes
        conns := s.conns.modify id fun c =>
          { c with queue := c.queue ++ [stamped D udpTransportPort p], sent := c.sent + 1 } } := by
  have hlast := h.current id hcurrent
  have hlength (f : Conn → Conn) : (s.conns.modify id f).length = s.conns.length :=
    List.length_modify ..
  refine ⟨?_, ?_, ?_, ?_, ?_, ?_, h.serving, ?_, ?_⟩
  · obtain ⟨kept, hkept, hsub⟩ := h.built
    rw [hbuilt] at hsub
    refine ⟨kept ++ [p], ?_, ?_⟩
    · rw [sentIn_sent]
      exact List.rel_append hkept (.cons ⟨udpTransportPort, rfl⟩ .nil)
    · rw [builtIn_sent, Option.toList_none, List.append_nil]
      exact hsub
  · intro id' hid
    rw [hlength]
    exact h.current id' hid
  · intro id' hid
    rw [hlength] at hid
    rw [sentOn_other log _ id (by omega)]
    exact h.fresh id' hid
  · rw [sentIn_sent, hlength, ← hlast, List.range_succ, List.flatMap_append,
      List.flatMap_singleton, sentOn_sent, ← List.append_assoc]
    congr 1
    rw [h.grouped, ← hlast, List.range_succ, List.flatMap_append, List.flatMap_singleton]
    congr 1
    refine List.flatMap_congr fun id' hid => ?_
    rw [sentOn_other log _ id (Nat.ne_of_gt (List.mem_range.mp hid))]
  · intro id' c hc
    obtain ⟨c', hc', ⟨rfl, rfl⟩ | ⟨hne, rfl⟩⟩ := getElem?_modify_cases hc
    · rw [sentOn_sent]
      exact (h.conns id c' hc').send hcurrent _
    · rw [sentOn_other log _ id hne]
      exact h.conns id' c hc'
  · intro id' c hc hle
    obtain ⟨c', hc', ⟨rfl, rfl⟩ | ⟨hne, rfl⟩⟩ := getElem?_modify_cases hc
    · exact h.unserved id c' hc' hle
    · exact h.unserved id' c hc' hle
  · rw [hlength]
    exact h.accept_le
  · refine h.processed.trans (takenOn_congr fun id' hid => ?_)
    dsimp only
    rw [takenFrom_modify]
    swap
    · exact fun _ => rfl
    by_cases hid' : id = id'
    · subst hid'
      -- the firmware has not taken more than was there before
      have hlt : id < s.conns.length := Nat.lt_of_lt_of_le hid h.accept_le
      have hok := h.conns id _ (List.getElem?_eq_getElem hlt)
      rw [sentOn_sent, takenFrom_eq (List.getElem?_eq_getElem hlt),
        List.take_append_of_le_length hok.taken_le]
    · rw [sentOn_other log _ id hid']

/-- The last packages of a connection are lost that the client has given up. -/
theorem InOrder.cut (h : InOrder D log s) {id : Nat} (hother : s.current ≠ some id)
    (keep : Nat) : InOrder D log { s with
      conns := s.conns.modify id fun c => { c with queue := c.queue.take keep } } := by
  have hlength (f : Conn → Conn) : (s.conns.modify id f).length = s.conns.length :=
    List.length_modify ..
  refine ⟨h.built, ?_, ?_, ?_, ?_, ?_, h.serving, ?_, ?_⟩
  · intro id' hid
    rw [hlength]
    exact h.current id' hid
  · intro id' hid
    exact h.fresh id' (hlength _ ▸ hid)
  · rw [hlength]
    exact h.grouped
  · intro id' c hc
    obtain ⟨c', hc', ⟨rfl, rfl⟩ | ⟨hne, rfl⟩⟩ := getElem?_modify_cases hc
    · exact (h.conns id c' hc').cut hother keep
    · exact h.conns id' c hc'
  · intro id' c hc hle
    obtain ⟨c', hc', ⟨rfl, rfl⟩ | ⟨hne, rfl⟩⟩ := getElem?_modify_cases hc
    · exact h.unserved id c' hc' hle
    · exact h.unserved id' c hc' hle
  · rw [hlength]
    exact h.accept_le
  · refine h.processed.trans (takenOn_congr fun id' _ => ?_)
    dsimp only
    rw [takenFrom_modify]
    exact fun _ => rfl

/-- The firmware turns to a connection, and passes over those before it. -/
theorem InOrder.accept (h : InOrder D log s) {id : Nat} (hnext : s.nextAccept ≤ id)
    (hlt : id < s.conns.length) (fw : MainLoop fwSize) :
    InOrder D log { s with serving := some id, nextAccept := id + 1, fw := fw } where
  built := h.built
  current := h.current
  fresh := h.fresh
  grouped := h.grouped
  conns := h.conns
  unserved := fun id' c hc hle =>
    h.unserved id' c hc (Nat.le_trans hnext (Nat.le_of_succ_le hle))
  serving := by
    intro id' hid
    cases hid
    rfl
  accept_le := hlt
  processed := by
    refine h.processed.trans (takenOn_extend (Nat.le_succ_of_le hnext) fun id' hle hlt' => ?_).symm
    have hlt'' : id' < s.conns.length := by omega
    rw [takenFrom_eq (List.getElem?_eq_getElem hlt'')]
    exact h.unserved id' _ (List.getElem?_eq_getElem hlt'') hle

/-- The firmware processes the oldest package of the connection that it serves. -/
theorem InOrder.process (h : InOrder D log s) {id : Nat} {c : Conn} {p : Package}
    {queue : List Package} (hserving : s.serving = some id) (hc : s.conns[id]? = some c)
    (hqueue : c.queue = p :: queue) (fw : MainLoop fwSize) (settings : List Package) :
    InOrder D log { s with
      conns := s.conns.modify id fun c => { c with queue := queue, taken := c.taken + 1 }
      fw := fw
      settings := settings
      processed := s.processed ++ [p] } := by
  have hlength (f : Conn → Conn) : (s.conns.modify id f).length = s.conns.length :=
    List.length_modify ..
  have hnext := h.serving id hserving
  obtain ⟨htake, hok⟩ := (h.conns id c hc).take hqueue
  have hself : (s.conns.modify id fun c => { c with queue := queue, taken := c.taken + 1 })[id]? =
      some { c with queue := queue, taken := c.taken + 1 } := by
    simp only [List.getElem?_modify, hc, Option.map_eq_map, Option.map_some, if_true]
  refine ⟨h.built, ?_, ?_, ?_, ?_, ?_, h.serving, ?_, ?_⟩
  · intro id' hid
    rw [hlength]
    exact h.current id' hid
  · intro id' hid
    exact h.fresh id' (hlength _ ▸ hid)
  · rw [hlength]
    exact h.grouped
  · intro id' c' hc'
    obtain ⟨c'', hc'', ⟨rfl, rfl⟩ | ⟨hne, rfl⟩⟩ := getElem?_modify_cases hc'
    · obtain rfl : c = c'' := Option.some.inj (hc.symm.trans hc'')
      exact hok
    · exact h.conns id' c' hc''
  · intro id' c' hc' hle
    obtain ⟨c'', hc'', ⟨rfl, rfl⟩ | ⟨hne, rfl⟩⟩ := getElem?_modify_cases hc'
    · exact absurd hle (by dsimp only; omega)
    · exact h.unserved id' c' hc'' hle
  · rw [hlength]
    exact h.accept_le
  · -- it is the last connection that anything was taken from
    show s.processed ++ [p] = takenOn log _ s.nextAccept
    have hrest : takenOn log (s.conns.modify id fun c =>
        { c with queue := queue, taken := c.taken + 1 }) id = takenOn log s.conns id := by
      refine takenOn_congr fun id' hid => ?_
      rw [takenFrom_other (Nat.ne_of_gt hid)]
    have hsplit (conns : List Conn) : takenOn log conns (id + 1) =
        takenOn log conns id ++ (sentOn log id).take (takenFrom conns id) := by
      rw [takenOn, List.range_succ, List.flatMap_append, List.flatMap_singleton]
      rfl
    rw [h.processed, ← hnext, hsplit, hsplit, hrest, takenFrom_eq hc, takenFrom_eq hself, htake,
      List.append_assoc]

/-- What is not mentioned in the invariant may change. -/
theorem InOrder.congr (h : InOrder D log s) (hbuilt : t.built = s.built)
    (hcurrent : t.current = s.current) (hconns : t.conns = s.conns)
    (hserving : t.serving = s.serving) (hnext : t.nextAccept = s.nextAccept)
    (hprocessed : t.processed = s.processed) : InOrder D log t where
  built := hbuilt ▸ h.built
  current := by
    rw [hcurrent, hconns]
    exact h.current
  fresh := hconns ▸ h.fresh
  grouped := hconns ▸ h.grouped
  conns := by
    rw [hcurrent, hconns]
    exact h.conns
  unserved := by
    rw [hconns, hnext]
    exact h.unserved
  serving := by
    rw [hserving, hnext]
    exact h.serving
  accept_le := by
    rw [hnext, hconns]
    exact h.accept_le
  processed := by
    rw [hprocessed, hconns, hnext]
    exact h.processed

theorem InOrder.step_send (h : InOrder D log s) {udpTransportPort : UInt16} {sent : Bool}
    (hstep : step D portConfig s (.send udpTransportPort sent) = some t) :
    InOrder D (log ++ deed D s (.send udpTransportPort sent)) t := by
  have hlost (current : Option Nat) (hcurrent : ∀ id, current = some id → s.current = some id) :
      InOrder D log { s with built := none, current := current } :=
    h.give_up (show List.Sublist (Option.toList none) _ from List.nil_sublist _) hcurrent
      s.txBuff s.poll
  simp only [step] at hstep
  cases hbuilt : s.built with
  | none => rw [hbuilt] at hstep; cases hstep
  | some p =>
    rw [hbuilt] at hstep
    dsimp only at hstep
    split at hstep
    · cases hstep
    · cases hcurrent : s.current with
      | none =>
        rw [hcurrent] at hstep
        cases Option.some.inj hstep
        have hnone : deed D s (.send udpTransportPort sent) = [] := by
          cases sent <;> simp only [deed, hbuilt, hcurrent]
        rw [hnone, List.append_nil, ← hcurrent]
        exact hlost s.current fun _ hid => hid
      | some id =>
        rw [hcurrent] at hstep
        cases sent with
        | false =>
          cases Option.some.inj hstep
          change InOrder D (log ++ []) _
          rw [List.append_nil]
          exact hlost none fun _ hid => absurd hid.symm (Option.some_ne_none _)
        | true =>
          cases Option.some.inj hstep
          simp only [deed, hbuilt, hcurrent]
          rw [← hcurrent]
          exact h.send hbuilt hcurrent udpTransportPort

/-- A step without a deed leaves the log as it is. -/
theorem InOrder.quiet {e : Event} (h : InOrder D log t) (hdeed : deed D s e = []) :
    InOrder D (log ++ deed D s e) t := by
  rw [hdeed, List.append_nil]
  exact h

/-- **Every step keeps the packages in order.** -/
theorem InOrder.step (h : InOrder D log s) {e : Event}
    (hstep : step D portConfig s e = some t) : InOrder D (log ++ deed D s e) t := by
  cases e with
  | pollFinish =>
    obtain ⟨poll, hpoll, rfl⟩ := step_pollFinish hstep
    simp only [deed, hpoll]
    exact h.pollFinish _ _
  | send udpTransportPort sent => exact h.step_send hstep
  | process micros =>
    obtain ⟨id, c, p, queue, hserving, hc, hqueue, rfl⟩ := step_process hstep
    refine InOrder.quiet ?_ rfl
    exact h.process hserving hc hqueue _ _
  | connect =>
    simp only [CounterField.step] at hstep
    split at hstep
    · cases hstep
    · cases Option.some.inj hstep
      refine InOrder.quiet ?_ rfl
      exact h.connect _
  | lose =>
    cases Option.some.inj hstep
    refine InOrder.quiet ?_ rfl
    have hnone : ∀ id, (none : Option Nat) = some id → s.current = some id :=
      fun _ hid => absurd hid.symm (Option.some_ne_none _)
    exact h.give_up (List.Sublist.refl _) hnone s.txBuff s.poll
  | cut id keep =>
    simp only [CounterField.step] at hstep
    split at hstep
    · cases hstep
    · rename_i hother
      cases Option.some.inj hstep
      refine InOrder.quiet ?_ rfl
      exact h.cut hother keep
  | accept id remoteIP micros =>
    simp only [CounterField.step] at hstep
    split at hstep
    · cases hstep
    · rename_i hguard
      cases Option.some.inj hstep
      refine InOrder.quiet ?_ rfl
      exact h.accept (by omega) (by omega) _
  | disconnect micros =>
    simp only [CounterField.step] at hstep
    split at hstep
    · cases Option.some.inj hstep
      refine InOrder.quiet ?_ rfl
      exact { h with serving := fun _ hid => absurd hid.symm (Option.some_ne_none _) }
    · cases hstep
  | portOpen i connection =>
    cases Option.some.inj hstep
    refine InOrder.quiet ?_ rfl
    exact h.congr rfl rfl rfl rfl rfl rfl
  | cutDown keep =>
    cases Option.some.inj hstep
    refine InOrder.quiet ?_ rfl
    exact h.congr rfl rfl rfl rfl rfl rfl
  | notify =>
    refine InOrder.quiet ?_ rfl
    simp only [CounterField.step] at hstep
    split at hstep
    · cases hstep
    · cases Option.some.inj hstep
      exact h.congr rfl rfl rfl rfl rfl rfl
  | pollStart counter =>
    refine InOrder.quiet ?_ rfl
    simp only [CounterField.step] at hstep
    split at hstep
    · cases hstep
    · cases Option.some.inj hstep
      exact h.congr rfl rfl rfl rfl rfl rfl
  | pollPort input =>
    refine InOrder.quiet ?_ rfl
    simp only [CounterField.step] at hstep
    split at hstep
    · cases hstep
    · split at hstep
      · cases hstep
      · cases Option.some.inj hstep
        exact h.congr rfl rfl rfl rfl rfl rfl
  | respond =>
    refine InOrder.quiet ?_ rfl
    simp only [CounterField.step] at hstep
    split at hstep
    · cases Option.some.inj hstep
      exact h.congr rfl rfl rfl rfl rfl rfl
    · cases hstep
  | response =>
    refine InOrder.quiet ?_ rfl
    simp only [CounterField.step] at hstep
    split at hstep
    · cases hstep
    · cases Option.some.inj hstep
      exact h.congr rfl rfl rfl rfl rfl rfl

/-! ## Whole runs -/

/-- What the client did in a run. -/
def history (D : Deployment) (portConfig : Nat → PortConfig) (s : State size fwSize)
    (es : List Event) : List Deed :=
  outputs (step D portConfig) (deed D) s es

/-- **Packages stay in order over any number of reconnects.** What the firmware processes are
packages that the client sent, in their order, each once: of each connection the first ones. And
what the client sends are packages that it built, in their order, each once. -/
theorem packages_in_order (D : Deployment) (portConfig : Nat → PortConfig)
    (ports : List (PortWorker UInt8 size)) (fw : MainLoop fwSize) (es : List Event)
    (s : State size fwSize) (hrun : exec (step D portConfig) (init ports fw) es = some s) :
    List.Sublist s.processed (sentIn (history D portConfig (init ports fw) es)) ∧
      s.processed = takenOn (history D portConfig (init ports fw) es) s.conns s.nextAccept ∧
      List.SublistForall₂ (Stamped D) (sentIn (history D portConfig (init ports fw) es))
        (builtIn (history D portConfig (init ports fw) es)) := by
  have h : InOrder D (history D portConfig (init ports fw) es) s :=
    exec_invariant_outputs (fun log s => InOrder D log s)
      (fun _ _ _ _ h hstep => h.step hstep) (InOrder.start ports fw) hrun
  obtain ⟨kept, hkept, hsub⟩ := h.built
  exact ⟨h.sublist, h.processed, List.sublistForall₂_iff.mpr
    ⟨kept, hkept, (List.sublist_append_left kept _).trans hsub⟩⟩

/-! ## A connection that is lost -/

open Deployment (avrPro ring512 port57600)

/-- Two packages go out on the first connection, of which one arrives, and a third one on the
second. -/
def reconnecting : List Event :=
  [.connect, .notify] ++ tick 1 ++ [.send 0 true] ++ tick 2 ++
    [.send 0 true, .lose, .cut 0 1, .connect, .notify] ++ tick 3 ++
    [.send 0 true, .accept 0 0x0100007F 100, .process 200, .disconnect 300,
      .accept 1 0x0100007F 400, .process 500]

def afterReconnect : State 16 512 :=
  (exec (step (avrPro false) (port57600 false)) switchedOn reconnecting).getD switchedOn

theorem packages_in_order_reconnect : afterReconnect.processed.map (·.counter) = [1, 3] ∧
    List.Sublist afterReconnect.processed
      (sentIn (history (avrPro false) (port57600 false) switchedOn reconnecting)) :=
  ⟨by decide +kernel, (packages_in_order (avrPro false) (port57600 false) onePort
    (MainLoop.setup (avrPro false).cfg [ring512] 0 0) reconnecting afterReconnect
    (exec_eq_some_getD (by decide +kernel))).1⟩

end UartBridge.Reconnect

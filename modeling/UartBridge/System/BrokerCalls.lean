import Mathlib.Data.Finset.Card
import UartBridge.Client.MessageBroker

/-!
# The active calls of a thread

The debug build of the message broker refuses a source that sends again while one of its sends
is active on the same thread.

* `ThreadStep`, `ends_calls` — then the calls of a thread cannot go on for ever, whatever the
  handlers do, while it sends for finitely many sources;
* `Booked` — the senders that are kept for a thread are the sources of its active calls;
* `Booked.refused`, `Booked.entered`, `Booked.left` — what the sections of `SendMessage` do.
-/

namespace UartBridge.Broker

open Client MessageBroker

variable {Tid σ Src Msg Sub : Type}

/-! ## The calls of one thread -/

section Thread

variable {κ : Type} {P : Subscribers σ Src Msg Sub} {S : Finset Src}

/-- What a step makes of the calls of its thread, if a second send of a source is refused.
Other threads matter only by the shared state that a handler finds. -/
inductive ThreadStep (P : Subscribers σ Src Msg Sub) :
    List (Frame σ Src Msg Sub κ) → List (Frame σ Src Msg Sub κ) → Prop where
  | enter {f : Frame σ Src Msg Sub κ} {fs : List (Frame σ Src Msg Sub κ)} {source : Src}
      {message : Msg} {next : σ → Code σ Src Msg} (hcode : f.code = .send source message next)
      (fresh : source ∉ (f :: fs).map Frame.source) (locals : κ) :
      ThreadStep P (f :: fs) ({ source := source, message := message, locals := locals
                                curSubscribers := P.subscribers, code := .done } :: f :: fs)
  | refused {f : Frame σ Src Msg Sub κ} {fs : List (Frame σ Src Msg Sub κ)} {source : Src}
      {message : Msg} {next : σ → Code σ Src Msg} (hcode : f.code = .send source message next)
      (shared : σ) : ThreadStep P (f :: fs) ({ f with code := next shared } :: fs)
  | act {f : Frame σ Src Msg Sub κ} {fs : List (Frame σ Src Msg Sub κ)} {update : σ → σ}
      {next : σ → Code σ Src Msg} (hcode : f.code = .act update next) (shared : σ) :
      ThreadStep P (f :: fs) ({ f with code := next shared } :: fs)
  | turn {f : Frame σ Src Msg Sub κ} {fs : List (Frame σ Src Msg Sub κ)} {subscriber : Sub}
      {curSubscribers : List Sub} (hcode : f.code = .done)
      (hsubs : f.curSubscribers = subscriber :: curSubscribers) (code : Code σ Src Msg) :
      ThreadStep P (f :: fs) ({ f with curSubscribers := curSubscribers, code := code } :: fs)
  | leave {f : Frame σ Src Msg Sub κ} {fs : List (Frame σ Src Msg Sub κ)} (hcode : f.code = .done)
      (hsubs : f.curSubscribers = []) (shared : σ) : ThreadStep P (f :: fs) (resume shared fs)

/-- The calls from which a thread cannot go on for ever without returning from all of them,
while it sends for the sources in `S` only. -/
def Ends (P : Subscribers σ Src Msg Sub) (S : Finset Src) (fs : List (Frame σ Src Msg Sub κ)) :
    Prop :=
  Acc (fun y x => ThreadStep P x y ∧ ∀ f ∈ y, f.source ∈ S) fs

/-- A handler comes to an end, if the calls that it makes do. -/
theorem ends_code {f : Frame σ Src Msg Sub κ} {fs : List (Frame σ Src Msg Sub κ)}
    (hdone : Ends P S ({ f with code := .done } :: fs))
    (henter : ∀ source message next,
      (∀ shared, Ends P S ({ f with code := next shared } :: fs)) →
      source ∉ (f :: fs).map Frame.source → source ∈ S → ∀ locals,
      Ends P S ({ source := source, message := message, locals := locals
                  curSubscribers := P.subscribers, code := .done } ::
                { f with code := .send source message next } :: fs))
    (code : Code σ Src Msg) : Ends P S ({ f with code := code } :: fs) := by
  induction code with
  | done => exact hdone
  | act update next ih =>
    refine Acc.intro _ fun y hy => ?_
    cases hy.1 with
    | enter hcode | refused hcode | turn hcode | leave hcode => cases hcode
    | act hcode shared =>
      cases hcode
      exact ih shared
  | send source message next ih =>
    refine Acc.intro _ fun y hy => ?_
    cases hy.1 with
    | act hcode | turn hcode | leave hcode => cases hcode
    | refused hcode shared =>
      cases hcode
      exact ih shared
    | enter hcode fresh locals =>
      cases hcode
      exact henter source message next ih fresh (hy.2 _ List.mem_cons_self) locals

/-- No more calls are active than there are sources, if none is active twice. -/
theorem length_le_card {fs : List (Frame σ Src Msg Sub κ)} (hmem : ∀ f ∈ fs, f.source ∈ S)
    (hnodup : (fs.map Frame.source).Nodup) : fs.length ≤ S.card := by
  classical
  have hsub : (fs.map Frame.source).toFinset ⊆ S := by
    intro source hsource
    obtain ⟨f, hf, rfl⟩ := List.mem_map.mp (List.mem_toFinset.mp hsource)
    exact hmem f hf
  calc fs.length = (fs.map Frame.source).toFinset.card := by
        rw [List.toFinset_card_of_nodup hnodup, List.length_map]
    _ ≤ S.card := Finset.card_le_card hsub

/-- **A call comes to an end.** The induction is on the sources that are not active, of which
a nested call has one less, and then on the subscribers that are left. -/
theorem ends_call (n : Nat) (fs : List (Frame σ Src Msg Sub κ))
    (hroom : fs.length + n = S.card) (hleave : ∀ shared, Ends P S (resume shared fs))
    (f : Frame σ Src Msg Sub κ) (hmem : ∀ g ∈ f :: fs, g.source ∈ S)
    (hnodup : ((f :: fs).map Frame.source).Nodup) : Ends P S (f :: fs) := by
  induction n generalizing fs f with
  | zero =>
    have hle := length_le_card hmem hnodup
    rw [List.length_cons] at hle
    omega
  | succ n ih =>
    obtain ⟨hf, hfs⟩ := List.forall_mem_cons.mp hmem
    have henter (curSubscribers : List Sub) (source : Src) (message : Msg)
        (next : σ → Code σ Src Msg)
        (hnext : ∀ shared, Ends P S
          ({ f with curSubscribers := curSubscribers, code := next shared } :: fs))
        (fresh : source ∉ (f :: fs).map Frame.source) (hsource : source ∈ S) (locals : κ) :
        Ends P S ({ source := source, message := message, locals := locals
                    curSubscribers := P.subscribers, code := .done } ::
          { f with curSubscribers := curSubscribers, code := .send source message next } :: fs) :=
      ih ({ f with curSubscribers := curSubscribers, code := .send source message next } :: fs)
        (by rw [List.length_cons]; omega) hnext _
        (List.forall_mem_cons.mpr ⟨hsource, List.forall_mem_cons.mpr ⟨hf, hfs⟩⟩)
        (List.nodup_cons.mpr ⟨fresh, hnodup⟩)
    have hloop (curSubscribers : List Sub) (code : Code σ Src Msg) :
        Ends P S ({ f with curSubscribers := curSubscribers, code := code } :: fs) := by
      induction curSubscribers generalizing code with
      | nil =>
        refine ends_code (f := { f with curSubscribers := [] }) ?_ (henter []) code
        refine Acc.intro _ fun y hy => ?_
        cases hy.1 with
        | enter hcode | refused hcode | act hcode => cases hcode
        | turn hcode hsubs => cases hsubs
        | leave _ _ shared => exact hleave shared
      | cons subscriber curSubscribers ihsubs =>
        refine ends_code (f := { f with curSubscribers := subscriber :: curSubscribers }) ?_
          (henter (subscriber :: curSubscribers)) code
        refine Acc.intro _ fun y hy => ?_
        cases hy.1 with
        | enter hcode | refused hcode | act hcode => cases hcode
        | turn hcode hsubs code =>
          cases hsubs
          exact ihsubs code
        | leave _ hsubs => cases hsubs
    exact hloop f.curSubscribers f.code

/-- What a caller goes on with is one of its calls as before. -/
theorem resume_map {α : Type} (g : Frame σ Src Msg Sub κ → α)
    (hg : ∀ f code, g { f with code := code } = g f) (shared : σ)
    (fs : List (Frame σ Src Msg Sub κ)) : (resume shared fs).map g = fs.map g := by
  unfold resume
  split
  · rfl
  · split
    · rw [List.map_cons, hg, List.map_cons]
    · rfl
    · rfl

/-- **All calls of a thread come to an end**, from the outermost one inwards. -/
theorem ends_calls (fs : List (Frame σ Src Msg Sub κ)) (hmem : ∀ f ∈ fs, f.source ∈ S)
    (hnodup : (fs.map Frame.source).Nodup) : Ends P S fs := by
  induction hlen : fs.length generalizing fs with
  | zero =>
    rw [List.length_eq_zero_iff.mp hlen]
    exact Acc.intro _ fun y hy => nomatch hy.1
  | succ n ih =>
    obtain ⟨f, fs, rfl⟩ := List.exists_cons_of_length_eq_add_one hlen
    have hle := length_le_card hmem hnodup
    rw [List.length_cons] at hlen hle
    refine ends_call (S.card - fs.length) fs (by omega) ?_ f hmem hnodup
    intro shared
    have hlength := resume_map (fun _ => ()) (fun _ _ => rfl) shared fs
    have hsource := resume_map Frame.source (fun _ _ => rfl) shared fs
    refine ih _ ?_ (hsource ▸ (List.nodup_cons.mp hnodup).2) ?_
    · intro g hg
      have hg' : g.source ∈ fs.map Frame.source := hsource ▸ List.mem_map_of_mem hg
      obtain ⟨g', hmem', heq⟩ := List.mem_map.mp hg'
      exact heq ▸ hmem g' (List.mem_cons_of_mem f hmem')
    · have hlength' := congrArg List.length hlength
      rw [List.length_map, List.length_map] at hlength'
      omega

end Thread

/-! ## The senders of each thread -/

section Senders

/-- An active call, as far as the bookkeeping goes. -/
abbrev Call (Src : Type) := Src × Locals

/-- The call whose set a thread uses: the outermost one. -/
def owner (calls : List (Call Src)) : Option Nat := calls.getLast?.map fun c => c.2.newSenders

theorem owner_eq_none {calls : List (Call Src)} : owner calls = none ↔ calls = [] := by
  unfold owner
  rw [Option.map_eq_none_iff, List.getLast?_eq_none_iff]

theorem owner_cons {calls : List (Call Src)} (hne : calls ≠ []) (c : Call Src) :
    owner (c :: calls) = owner calls := by
  unfold owner
  rw [List.getLast?_cons_of_ne_nil hne]

/-- The set that a thread uses is one of its active calls'. -/
theorem exists_of_owner {calls : List (Call Src)} {o : Nat} (ho : owner calls = some o) :
    ∃ c ∈ calls, c.2.newSenders = o := by
  obtain ⟨c, hc, rfl⟩ := Option.map_eq_some_iff.mp ho
  exact ⟨c, List.mem_of_getLast? hc, rfl⟩

variable [DecidableEq Src]

/-- What is kept for a thread: the set of its outermost call, which every call of the thread
uses, with the sources of all of them. -/
structure Registered (book : Callers Tid Src) (thread : Tid) (calls : List (Call Src)) :
    Prop where
  callers_eq : book.callers thread = owner calls
  curSenders_eq : ∀ c ∈ calls, owner calls = some c.2.curSenders
  senders_eq : ∀ o, owner calls = some o → book.newSenders o = (calls.map Prod.fst).toFinset
  nodup : (calls.map Prod.fst).Nodup

/-- The members of the broker, with the active calls of all threads. -/
structure Booked (book : Callers Tid Src) (calls : Tid → List (Call Src)) : Prop where
  registered : ∀ thread, Registered book thread (calls thread)
  apart : ∀ thread thread' o, book.callers thread = some o → book.callers thread' = some o →
    thread = thread'
  started : ∀ thread o, book.callers thread = some o → o < book.started

/-- The bookkeeping of a thread reads its own entry and its own set. -/
theorem Registered.congr {book book' : Callers Tid Src} {thread : Tid} {calls : List (Call Src)}
    (h : Registered book thread calls) (hcallers : book'.callers thread = book.callers thread)
    (hsenders : ∀ o, book.callers thread = some o → book'.newSenders o = book.newSenders o) :
    Registered book' thread calls where
  callers_eq := hcallers.trans h.callers_eq
  curSenders_eq := h.curSenders_eq
  senders_eq := fun o ho => (hsenders o (h.callers_eq.trans ho)).trans (h.senders_eq o ho)
  nodup := h.nodup

section OneThread

variable {book book' : Callers Tid Src} {thread : Tid} {calls : List (Call Src)} {source : Src}

/-- A thread without calls. -/
theorem Registered.nil (hcallers : book.callers thread = none) :
    Registered book thread ([] : List (Call Src)) where
  callers_eq := hcallers
  curSenders_eq := fun _ hc => (nomatch hc)
  senders_eq := fun _ ho => (nomatch ho)
  nodup := List.nodup_nil

/-- The outermost call uses its own set. -/
theorem Registered.first {o : Nat} (hcallers : book.callers thread = some o)
    (hsenders : book.newSenders o = {source}) :
    Registered book thread [(source, { newSenders := o, curSenders := o })] where
  callers_eq := hcallers
  curSenders_eq := by
    intro c hc
    rw [List.mem_singleton.mp hc]
    rfl
  senders_eq := by
    intro o' ho
    cases ho
    exact hsenders
  nodup := List.nodup_singleton _

/-- A nested call uses the set of the outermost one. -/
theorem Registered.nested (h : Registered book thread calls) {new cur : Nat}
    (howner : owner calls = some cur) (hfresh : source ∉ calls.map Prod.fst)
    (hcallers : book'.callers thread = book.callers thread)
    (hsenders : book'.newSenders cur = insert source (book.newSenders cur)) :
    Registered book' thread ((source, { newSenders := new, curSenders := cur }) :: calls) := by
  have hne : calls ≠ [] := by
    intro hnil
    rw [owner_eq_none.mpr hnil] at howner
    cases howner
  refine ⟨?_, ?_, ?_, List.nodup_cons.mpr ⟨hfresh, h.nodup⟩⟩
  · rw [owner_cons hne, hcallers]
    exact h.callers_eq
  · rw [owner_cons hne]
    exact List.forall_mem_cons.mpr ⟨howner, h.curSenders_eq⟩
  · intro o ho
    rw [owner_cons hne, howner, Option.some.injEq] at ho
    subst ho
    rw [hsenders, h.senders_eq cur howner, List.map_cons, List.toFinset_cons]

/-- When a call returns, its source leaves the set. -/
theorem Registered.erase {locals : Locals}
    (h : Registered book thread ((source, locals) :: calls)) :
    (book.newSenders locals.curSenders).erase source = (calls.map Prod.fst).toFinset := by
  have hfresh := (List.nodup_cons.mp h.nodup).1
  rw [h.senders_eq _ (h.curSenders_eq _ List.mem_cons_self), List.map_cons, List.toFinset_cons,
    Finset.erase_insert (fun hmem => hfresh (List.mem_toFinset.mp hmem))]

/-- The calls that are left use the set as before. -/
theorem Registered.tail {locals : Locals}
    (h : Registered book thread ((source, locals) :: calls)) (hne : calls ≠ [])
    (hcallers : book'.callers thread = book.callers thread)
    (hsenders : book'.newSenders locals.curSenders = (calls.map Prod.fst).toFinset) :
    Registered book' thread calls := by
  have howner := h.curSenders_eq _ List.mem_cons_self
  refine ⟨?_, ?_, ?_, (List.nodup_cons.mp h.nodup).2⟩
  · rw [hcallers, h.callers_eq, owner_cons hne]
  · intro c hc
    rw [← owner_cons hne (source, locals)]
    exact h.curSenders_eq c (List.mem_cons_of_mem _ hc)
  · intro o ho
    rw [← owner_cons hne (source, locals), howner, Option.some.injEq] at ho
    exact ho ▸ hsenders

end OneThread

variable {book book' : Callers Tid Src} {calls : Tid → List (Call Src)} {thread : Tid}
  {source : Src}

/-- The set that a call creates is nobody else's. -/
theorem Booked.ne_started (h : Booked book calls) {o : Nat} (ho : book.callers thread = some o) :
    o ≠ book.started :=
  Nat.ne_of_lt (h.started thread o ho)

/-- Two threads use different sets. -/
theorem Booked.ne_of_ne (h : Booked book calls) {t : Tid} (hne : t ≠ thread) {o o' : Nat}
    (ho : book.callers t = some o) (ho' : book.callers thread = some o') : o ≠ o' :=
  fun heq => hne (h.apart t thread o ho (heq ▸ ho'))

/-- The set of a thread has the sources of its active calls. -/
theorem Booked.mem_iff (h : Booked book calls) {o : Nat} (ho : book.callers thread = some o) :
    source ∈ book.newSenders o ↔ source ∈ (calls thread).map Prod.fst := by
  have hreg := h.registered thread
  rw [hreg.senders_eq o (hreg.callers_eq.symm.trans ho), List.mem_toFinset]

variable [DecidableEq Tid]

/-- **What a thread does to the bookkeeping.** It keeps to its own entry, which is as before, or
new, or gone, and to the sets that no other thread uses. -/
theorem Booked.update (h : Booked book calls) {active : List (Call Src)}
    (hactive : Registered book' thread active)
    (hcallers : ∀ t, t ≠ thread → book'.callers t = book.callers t)
    (hsenders : ∀ t o, t ≠ thread → book.callers t = some o →
      book'.newSenders o = book.newSenders o)
    (hstarted : book.started ≤ book'.started)
    (hown : ∀ o, book'.callers thread = some o →
      book.callers thread = some o ∨ book.started ≤ o ∧ o < book'.started) :
    Booked book' (Function.update calls thread active) where
  registered := by
    intro t
    by_cases ht : t = thread
    · subst ht
      rw [Function.update_self]
      exact hactive
    · rw [Function.update_of_ne ht]
      exact (h.registered t).congr (hcallers t ht) fun o => hsenders t o ht
  apart := by
    have hother (t : Tid) (o : Nat) (ht : t ≠ thread) (hto : book'.callers t = some o)
        (ho : book'.callers thread = some o) : False := by
      rw [hcallers t ht] at hto
      rcases hown o ho with hsame | hnew
      · exact ht (h.apart t thread o hto hsame)
      · exact absurd (h.started t o hto) (Nat.not_lt.mpr hnew.1)
    intro t t' o ho ho'
    by_cases ht : t = thread
    · by_cases ht' : t' = thread
      · rw [ht, ht']
      · exact (hother t' o ht' ho' (ht ▸ ho)).elim
    · by_cases ht' : t' = thread
      · exact (hother t o ht ho (ht' ▸ ho')).elim
      · exact h.apart t t' o (hcallers t ht ▸ ho) (hcallers t' ht' ▸ ho')
  started := by
    intro t o ho
    by_cases ht : t = thread
    · rcases hown o (ht ▸ ho) with hsame | hnew
      · exact Nat.lt_of_lt_of_le (h.started thread o hsame) hstarted
      · exact hnew.2
    · exact Nat.lt_of_lt_of_le (h.started t o (hcallers t ht ▸ ho)) hstarted

/-- **A call that is refused** is one of a source that is active on the thread, and leaves
everything as it was. -/
theorem Booked.refused (h : Booked book calls)
    (hnone : (checkRecursion thread source book).2 = none) :
    source ∈ (calls thread).map Prod.fst ∧ Booked (checkRecursion thread source book).1 calls := by
  unfold checkRecursion at hnone ⊢
  dsimp only at hnone ⊢
  cases hcallers : book.callers thread with
  | none => simp [hcallers] at hnone
  | some o =>
    simp only [hcallers, Function.update_of_ne (h.ne_started hcallers)] at hnone ⊢
    by_cases hmem : source ∈ book.newSenders o
    · rw [if_pos hmem]
      refine ⟨(h.mem_iff hcallers).mp hmem, ?_, h.apart,
        fun t o ho => Nat.lt_succ_of_lt (h.started t o ho)⟩
      intro t
      exact (h.registered t).congr rfl fun o ho => Function.update_of_ne (h.ne_started ho) _ _
    · rw [if_neg hmem] at hnone
      cases hnone

/-- **A call that goes on** is one of a source that is not, and it is active now. -/
theorem Booked.entered (h : Booked book calls) {locals : Locals}
    (hsome : (checkRecursion thread source book).2 = some locals) :
    source ∉ (calls thread).map Prod.fst ∧ Booked (checkRecursion thread source book).1
      (Function.update calls thread ((source, locals) :: calls thread)) := by
  have hreg := h.registered thread
  unfold checkRecursion at hsome ⊢
  dsimp only at hsome ⊢
  cases hcallers : book.callers thread with
  | none =>
    have hnil : calls thread = [] := owner_eq_none.mp (hreg.callers_eq.symm.trans hcallers)
    simp only [hcallers, Option.some.injEq] at hsome ⊢
    subst hsome
    rw [hnil]
    refine ⟨List.not_mem_nil, h.update ?_ ?_ ?_ (Nat.le_succ _) ?_⟩
    · exact Registered.first (Function.update_self _ _ _) (Function.update_self _ _ _)
    · intro t ht
      exact Function.update_of_ne ht _ _
    · intro t o _ ho
      have hne := h.ne_started ho
      exact (Function.update_of_ne hne _ _).trans (Function.update_of_ne hne _ _)
    · intro o ho
      dsimp only at ho ⊢
      rw [Function.update_self, Option.some.injEq] at ho
      exact Or.inr ⟨ho.le, ho ▸ Nat.lt_succ_self _⟩
  | some cur =>
    simp only [hcallers, Function.update_of_ne (h.ne_started hcallers)] at hsome ⊢
    by_cases hmem : source ∈ book.newSenders cur
    · rw [if_pos hmem] at hsome
      cases hsome
    · rw [if_neg hmem] at hsome ⊢
      cases hsome
      have hfresh := (h.mem_iff hcallers).not.mp hmem
      refine ⟨hfresh, h.update ?_ (fun _ _ => rfl) ?_ (Nat.le_succ _) (fun _ ho => Or.inl ho)⟩
      · exact hreg.nested (hreg.callers_eq.symm.trans hcallers) hfresh rfl
          (Function.update_self _ _ _)
      · intro t o ht ho
        exact (Function.update_of_ne (h.ne_of_ne ht ho hcallers) _ _).trans
          (Function.update_of_ne (h.ne_started ho) _ _)

/-- **A call that ends.** -/
theorem Booked.left (h : Booked book calls) {locals : Locals} {rest : List (Call Src)}
    (hcalls : calls thread = (source, locals) :: rest) :
    Booked (removeSender thread source locals book) (Function.update calls thread rest) := by
  have hreg := h.registered thread
  rw [hcalls] at hreg
  have hcallers := hreg.callers_eq.trans (hreg.curSenders_eq _ List.mem_cons_self)
  have hothers (t : Tid) (o : Nat) (ht : t ≠ thread) (ho : book.callers t = some o)
      (set : Finset Src) : Function.update book.newSenders locals.curSenders set o =
        book.newSenders o :=
    Function.update_of_ne (h.ne_of_ne ht ho hcallers) _ _
  unfold removeSender
  dsimp only
  rw [hreg.erase]
  by_cases hrest : rest = []
  · subst hrest
    rw [List.map_nil, List.toFinset_nil, if_pos rfl]
    refine h.update (Registered.nil (Function.update_self _ _ _)) ?_
      (fun t o ht ho => hothers t o ht ho _) le_rfl ?_
    · intro t ht
      exact Function.update_of_ne ht _ _
    · intro o ho
      dsimp only at ho
      rw [Function.update_self] at ho
      cases ho
  · have hne : (rest.map Prod.fst).toFinset ≠ ∅ := by
      rw [Ne, List.toFinset_eq_empty_iff, List.map_eq_nil_iff]
      exact hrest
    rw [if_neg hne]
    exact h.update (hreg.tail hrest rfl (Function.update_self _ _ _)) (fun _ _ => rfl)
      (fun t o ht ho => hothers t o ht ho _) le_rfl (fun _ ho => Or.inl ho)

end Senders

end UartBridge.Broker

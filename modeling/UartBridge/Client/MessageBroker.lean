import Mathlib.Data.Finset.Basic
import Mathlib.Logic.Function.Basic

/-!
# MessageBroker: both builds

`SendMessage` calls the `OnMessage` of each subscriber that is ready for the message, on the
sender's thread, and a handler may send in turn. The debug build also keeps, for each thread,
the sources whose sends are active there, and refuses a second send of one of them. That is
all the builds differ in: the loop over the subscribers is the same text in both.

A handler is a program: it works on what the handlers share, and calls `SendMessage`. Its
steps, each section under `opLock` and each turn of a loop are the atomic steps of a thread.
-/

namespace UartBridge.Client

/-- The rest of a running `OnMessage`. What it does next may depend on the shared state, which
other threads change, but on every way it comes to an end. -/
inductive Code (σ Src Msg : Type) where
  | done
  | act (update : σ → σ) (next : σ → Code σ Src Msg)
  | send (source : Src) (message : Msg) (next : σ → Code σ Src Msg)

/-- The subscribers, in the order of the set, and what they do. -/
structure Subscribers (σ Src Msg Sub : Type) where
  subscribers : List Sub
  readyForMessage : Sub → Msg → Bool
  onMessage : Sub → Src → Msg → Code σ Src Msg

/-! ## The bookkeeping of the builds -/

/-- What `SendMessage` does before and after its loop, on the members `β` of the broker.
`κ` are its local variables. -/
structure Build (Tid Src β κ : Type) where
  /-- The section before the loop; without local variables the call returns at once. -/
  enter : Tid → Src → β → β × Option κ
  /-- The section after it. -/
  leave : Tid → Src → κ → β → β

/-- With `NDEBUG` there is nothing to keep. -/
def ndebugBuild (Tid Src : Type) : Build Tid Src Unit Unit where
  enter := fun _ _ book => (book, some ())
  leave := fun _ _ _ book => book

/-- `callers`, and the sets that it points to: `newSenders` of the `SendMessage` calls, which
are numbered in the order in which they `start`. -/
structure Callers (Tid Src : Type) where
  callers : Tid → Option Nat
  newSenders : Nat → Finset Src
  started : Nat

/-- No thread is sending. -/
def Callers.empty (Tid Src : Type) : Callers Tid Src where
  callers := fun _ => none
  newSenders := fun _ => ∅
  started := 0

/-- The local variables of a `SendMessage` call: its own set, and the one that it uses. -/
structure Locals where
  newSenders : Nat
  curSenders : Nat
  deriving DecidableEq, Repr

section Debug

variable {Tid Src : Type} [DecidableEq Tid] [DecidableEq Src]

/-- The section that looks for a recursion. -/
def checkRecursion (thread : Tid) (source : Src) (book : Callers Tid Src) :
    Callers Tid Src × Option Locals :=
  let newSenders := book.started
  let book := { book with
    newSenders := Function.update book.newSenders newSenders ∅
    started := book.started + 1 }
  match book.callers thread with
  | none =>
    -- no recursion, just create new storage
    ({ book with
        newSenders := Function.update book.newSenders newSenders {source}
        callers := Function.update book.callers thread (some newSenders) },
      some { newSenders := newSenders, curSenders := newSenders })
  | some curSenders =>
    if source ∈ book.newSenders curSenders then (book, none)
    else
      ({ book with
          newSenders := Function.update book.newSenders curSenders
            (insert source (book.newSenders curSenders)) },
        some { newSenders := newSenders, curSenders := curSenders })

/-- The section that removes the sender. -/
def removeSender (thread : Tid) (source : Src) (locals : Locals) (book : Callers Tid Src) :
    Callers Tid Src :=
  let curSenders := (book.newSenders locals.curSenders).erase source
  let book := { book with
    newSenders := Function.update book.newSenders locals.curSenders curSenders }
  if curSenders = ∅ then { book with callers := Function.update book.callers thread none }
  else book

def debugBuild (Tid Src : Type) [DecidableEq Tid] [DecidableEq Src] :
    Build Tid Src (Callers Tid Src) Locals where
  enter := checkRecursion
  leave := removeSender

end Debug

/-! ## Threads -/

/-- An active `SendMessage` call: what is left of its loop, and the rest of the handler that
it has called. While that sends, the rest begins with the send. -/
structure Frame (σ Src Msg Sub κ : Type) where
  source : Src
  message : Msg
  locals : κ
  curSubscribers : List Sub
  code : Code σ Src Msg

/-- The broker with its threads, each with its active calls, the innermost first.
`deliveries` are the calls of `OnMessage`, in their order. -/
structure MessageBroker (Tid σ Src Msg Sub β κ : Type) where
  book : β
  calls : Tid → List (Frame σ Src Msg Sub κ)
  shared : σ
  deliveries : List (Tid × Sub × Src × Msg)

inductive BrokerEvent (Tid Src Msg : Type) where
  /-- A thread that has no active call sends a message. -/
  | call (thread : Tid) (source : Src) (message : Msg)
  /-- A thread in a call goes on. -/
  | run (thread : Tid)

def BrokerEvent.thread {Tid Src Msg : Type} : BrokerEvent Tid Src Msg → Tid
  | .call thread _ _ => thread
  | .run thread => thread

namespace MessageBroker

variable {Tid σ Src Msg Sub β κ : Type} [DecidableEq Tid]

/-- A broker that nothing was sent through. -/
def init (book : β) (shared : σ) : MessageBroker Tid σ Src Msg Sub β κ where
  book := book
  calls := fun _ => []
  shared := shared
  deliveries := []

/-- The calls of a thread when one has returned: the handler that made it goes on. -/
def resume (shared : σ) : List (Frame σ Src Msg Sub κ) → List (Frame σ Src Msg Sub κ)
  | [] => []
  | f :: fs =>
    match f.code with
    | .send _ _ next => { f with code := next shared } :: fs
    | .done | .act _ _ => f :: fs

def setCalls (s : MessageBroker Tid σ Src Msg Sub β κ) (thread : Tid)
    (active : List (Frame σ Src Msg Sub κ)) : MessageBroker Tid σ Src Msg Sub β κ :=
  { s with calls := Function.update s.calls thread active }

/-- A `SendMessage` call as far as its loop. -/
def sendMessage (build : Build Tid Src β κ) (P : Subscribers σ Src Msg Sub) (thread : Tid)
    (source : Src) (message : Msg) (s : MessageBroker Tid σ Src Msg Sub β κ) :
    MessageBroker Tid σ Src Msg Sub β κ :=
  let r := build.enter thread source s.book
  match r.2 with
  | none => { s with book := r.1 }.setCalls thread (resume s.shared (s.calls thread))
  | some locals =>
    { s with book := r.1 }.setCalls thread
      ({ source := source, message := message, locals := locals
         curSubscribers := P.subscribers, code := .done } :: s.calls thread)

/-- A turn of the loop, while no handler is running: a subscriber, or the end. -/
def loopTurn (build : Build Tid Src β κ) (P : Subscribers σ Src Msg Sub) (thread : Tid)
    (f : Frame σ Src Msg Sub κ) (fs : List (Frame σ Src Msg Sub κ))
    (s : MessageBroker Tid σ Src Msg Sub β κ) : MessageBroker Tid σ Src Msg Sub β κ :=
  match f.curSubscribers with
  | subscriber :: curSubscribers =>
    if P.readyForMessage subscriber f.message then
      { s with deliveries := s.deliveries ++ [(thread, subscriber, f.source, f.message)] }.setCalls
        thread ({ f with
          curSubscribers := curSubscribers
          code := P.onMessage subscriber f.source f.message } :: fs)
    else s.setCalls thread ({ f with curSubscribers := curSubscribers } :: fs)
  | [] =>
    { s with book := build.leave thread f.source f.locals s.book }.setCalls thread
      (resume s.shared fs)

/-- An atomic step of a thread. -/
def step (build : Build Tid Src β κ) (P : Subscribers σ Src Msg Sub)
    (s : MessageBroker Tid σ Src Msg Sub β κ) :
    BrokerEvent Tid Src Msg → Option (MessageBroker Tid σ Src Msg Sub β κ)
  | .call thread source message =>
    match s.calls thread with
    | [] => some (s.sendMessage build P thread source message)
    | _ :: _ => none
  | .run thread =>
    match s.calls thread with
    | [] => none
    | f :: fs =>
      match f.code with
      | .send source message _ => some (s.sendMessage build P thread source message)
      | .act update next =>
        some ({ s with shared := update s.shared }.setCalls thread
          ({ f with code := next s.shared } :: fs))
      | .done => some (s.loopTurn build P thread f fs)

end MessageBroker

end UartBridge.Client

import Mathlib.Tactic

/-!
# Tasks of an event loop

An event loop runs one task at a time, up to the next point where it waits for an answer. Until
then nothing else changes the state; while it waits other tasks may. A loop without a bound goes
through its head, which has a name: there the task waits, and with the answer it starts over.
-/

/-- What the tasks of an event loop work with: a state, questions that are answered at once, calls
whose answers are awaited, and the heads of loops with the calls that are awaited there. -/
structure EventLoop where
  State : Type
  Query : Type
  Reply : Query → Type
  Call : Type
  Answer : Call → Type
  Head : Type
  call : Head → Call

/-- What is left of a task. -/
inductive Async (L : EventLoop) (α : Type) : Type
  | done (value : α)
  | read (next : L.State → Async L α)
  | write (f : L.State → L.State) (next : Async L α)
  | ask (query : L.Query) (next : L.Reply query → Async L α)
  | await (call : L.Call) (next : L.Answer call → Async L α)
  | park (head : L.Head)

variable {L : EventLoop} {α β ε : Type}

namespace Async

/-- Continues with the value of a task. A task that starts over has none. -/
protected def bind (m : Async L α) (f : α → Async L β) : Async L β :=
  match m with
  | .done value => f value
  | .read next => .read fun state => (next state).bind f
  | .write g next => .write g (next.bind f)
  | .ask query next => .ask query fun reply => (next reply).bind f
  | .await call next => .await call fun answer => (next answer).bind f
  | .park head => .park head

instance : Monad (Async L) where
  pure := .done
  bind := Async.bind

/-- The task is over. -/
def isDone : Async L α → Bool
  | .done _ => true
  | _ => false

/-- The task waits for an answer. -/
def IsWaiting : Async L α → Prop
  | .await _ _ => True
  | .park _ => True
  | _ => False

/-- How the outside behaves in one segment: what it answers to calls, and to the questions of the
segment, which are counted. Both may depend on the state. -/
structure Oracle (L : EventLoop) where
  answers : L.State → (call : L.Call) → L.Answer call
  replies : ℕ → L.State → (query : L.Query) → L.Reply query

/-- Runs a task until it waits or is over. -/
def advance (replies : ℕ → L.State → (query : L.Query) → L.Reply query) :
    ℕ → Async L α → L.State → L.State × Async L α
  | count, .read next, s => advance replies count (next s) s
  | count, .write f next, s => advance replies count next (f s)
  | count, .ask query next, s => advance replies (count + 1) (next (replies count s query)) s
  | _, task, s => (s, task)

/-- Answers a task that waits, and runs it until it waits again or is over. -/
def resume (code : (head : L.Head) → L.Answer (L.call head) → Async L α) (oracle : Oracle L)
    (task : Async L α) (s : L.State) : L.State × Async L α :=
  match task with
  | .await call next => advance oracle.replies 0 (next (oracle.answers s call)) s
  | .park head => advance oracle.replies 0 (code head (oracle.answers s (L.call head))) s
  | task => (s, task)

/-- What is known of the surroundings of a task, and promised to them: how the state may change
while the task waits, and what holds then; how the task changes it; which answers and replies may
be given; and what holds where a loop starts over. -/
structure Terms (L : EventLoop) where
  rely : L.State → L.State → Prop
  rest : L.State → Prop
  guar : L.State → L.State → Prop
  answered : L.State → (call : L.Call) → L.Answer call → Prop
  replied : L.State → (query : L.Query) → L.Reply query → Prop
  head : L.Head → L.State → Prop

/-- Terms that fit together. -/
structure Terms.Lawful (terms : Terms L) : Prop where
  rely_refl : ∀ s, terms.rely s s
  rely_trans : ∀ {s t u}, terms.rely s t → terms.rely t u → terms.rely s u
  guar_refl : ∀ s, terms.guar s s
  guar_trans : ∀ {s t u}, terms.guar s t → terms.guar t u → terms.guar s u
  head_stable : ∀ {head s t}, terms.head head s → terms.rely s t → terms.head head t
  head_rest : ∀ {head s}, terms.head head s → terms.rest s

/-- From a state on, a task keeps to the terms, and its value and the state it ends in meet an
assertion. -/
def Meets (terms : Terms L) (post : α → L.State → Prop) : Async L α → L.State → Prop
  | .done value, s => post value s
  | .read next, s => Meets terms post (next s) s
  | .write f next, s => terms.guar s (f s) ∧ Meets terms post next (f s)
  | .ask query next, s =>
    ∀ reply, terms.replied s query reply → Meets terms post (next reply) s
  | .await call next, s => ∀ t, terms.rely s t → terms.rest t ∧
    ∀ answer, terms.answered t call answer → Meets terms post (next answer) t
  | .park head, s => terms.head head s

section Rules

variable {terms : Terms L} {post : α → L.State → Prop} {post' : β → L.State → Prop}
  {m : Async L α} {f : α → Async L β} {s t : L.State}

theorem Meets.pure {value : α} (h : post value s) : Meets terms post (pure value) s := h

/-- Sequences. -/
theorem Meets.bind (hm : Meets terms post m s)
    (hf : ∀ value t, post value t → Meets terms post' (f value) t) :
    Meets terms post' (m >>= f) s := by
  induction m generalizing s with
  | done value => exact hf value s hm
  | read next ih => exact ih s hm
  | write g next ih => exact ⟨hm.1, ih hm.2⟩
  | ask query next ih => exact fun reply hreply => ih reply (hm reply hreply)
  | await call next ih =>
    intro t hrely
    obtain ⟨hrest, hnext⟩ := hm t hrely
    exact ⟨hrest, fun answer hanswer => ih answer (hnext answer hanswer)⟩
  | park head => exact hm

/-- A weaker assertion. -/
theorem Meets.imp {weaker : α → L.State → Prop} (hm : Meets terms post m s)
    (h : ∀ value t, post value t → weaker value t) : Meets terms weaker m s := by
  induction m generalizing s with
  | done value => exact h value s hm
  | read next ih => exact ih s hm
  | write g next ih => exact ⟨hm.1, ih hm.2⟩
  | ask query next ih => exact fun reply hreply => ih reply (hm reply hreply)
  | await call next ih =>
    intro t hrely
    obtain ⟨hrest, hnext⟩ := hm t hrely
    exact ⟨hrest, fun answer hanswer => ih answer (hnext answer hanswer)⟩
  | park head => exact hm

/-- The surroundings of a task that waits may go on. -/
theorem Meets.stable (hterms : terms.Lawful) (hwaiting : IsWaiting m)
    (hm : Meets terms post m s) (hrely : terms.rely s t) : Meets terms post m t := by
  cases m with
  | await call next => exact fun u hu => hm u (hterms.rely_trans hrely hu)
  | park head => exact hterms.head_stable hm hrely
  | done value => cases hwaiting
  | read next => cases hwaiting
  | write g next => cases hwaiting
  | ask query next => cases hwaiting

/-- What holds while a task waits. -/
theorem Meets.rest (hterms : terms.Lawful) (hwaiting : IsWaiting m)
    (hm : Meets terms post m s) : terms.rest s := by
  cases m with
  | await call next => exact (hm s (hterms.rely_refl s)).1
  | park head => exact hterms.head_rest hm
  | done value => cases hwaiting
  | read next => cases hwaiting
  | write g next => cases hwaiting
  | ask query next => cases hwaiting

/-- A segment keeps the promise, and what is left keeps to the terms and waits or is over. -/
theorem Meets.advance (hterms : terms.Lawful)
    {replies : ℕ → L.State → (query : L.Query) → L.Reply query}
    (hreplies : ∀ count s query, terms.replied s query (replies count s query))
    (hm : Meets terms post m s) (count : ℕ) :
    terms.guar s (advance replies count m s).1 ∧
      Meets terms post (Async.advance replies count m s).2 (Async.advance replies count m s).1 ∧
      (IsWaiting (Async.advance replies count m s).2 ∨
        ∃ value, (Async.advance replies count m s).2 = .done value) := by
  induction m generalizing s count with
  | done value => exact ⟨hterms.guar_refl s, hm, .inr ⟨value, rfl⟩⟩
  | read next ih => exact ih s hm count
  | write g next ih =>
    obtain ⟨hguar, hmeets, hends⟩ := ih hm.2 count
    exact ⟨hterms.guar_trans hm.1 hguar, hmeets, hends⟩
  | ask query next ih => exact ih _ (hm _ (hreplies count s query)) (count + 1)
  | await call next ih => exact ⟨hterms.guar_refl s, hm, .inl trivial⟩
  | park head => exact ⟨hterms.guar_refl s, hm, .inl trivial⟩

/-- The same from an answer on, when what follows the heads of loops keeps to the terms, too. -/
theorem Meets.resume (hterms : terms.Lawful)
    {code : (head : L.Head) → L.Answer (L.call head) → Async L α} {oracle : Oracle L}
    (hcode : ∀ head s answer, terms.head head s → terms.answered s (L.call head) answer →
      Meets terms post (code head answer) s)
    (hanswers : ∀ s call, terms.answered s call (oracle.answers s call))
    (hreplies : ∀ count s query, terms.replied s query (oracle.replies count s query))
    (hwaiting : IsWaiting m) (hm : Meets terms post m s) :
    terms.guar s (resume code oracle m s).1 ∧
      Meets terms post (Async.resume code oracle m s).2 (Async.resume code oracle m s).1 ∧
      (IsWaiting (Async.resume code oracle m s).2 ∨
        ∃ value, (Async.resume code oracle m s).2 = .done value) := by
  cases m with
  | await call next =>
    exact Meets.advance hterms hreplies ((hm s (hterms.rely_refl s)).2 _ (hanswers s call)) 0
  | park head =>
    exact Meets.advance hterms hreplies (hcode head s _ hm (hanswers s _)) 0
  | done value => cases hwaiting
  | read next => cases hwaiting
  | write g next => cases hwaiting
  | ask query next => cases hwaiting

end Rules

end Async

/-- A task that may throw. -/
abbrev Promise (L : EventLoop) (ε α : Type) := ExceptT ε (Async L) α

namespace Promise

open Async

/-- Reads the state. -/
def read : Promise L ε L.State := ExceptT.lift (.read .done)

/-- Writes the state. -/
def write (f : L.State → L.State) : Promise L ε Unit := ExceptT.lift (.write f (.done ()))

/-- A question. -/
def ask (query : L.Query) : Promise L ε (L.Reply query) := ExceptT.lift (.ask query .done)

/-- A call. -/
def await (call : L.Call) : Promise L ε (L.Answer call) := ExceptT.lift (.await call .done)

/-- Starts a loop over. -/
def park (head : L.Head) : Promise L ε α := ExceptT.mk (.park head)

/-- What was answered, or the error that was. -/
def ofExcept (result : Except ε α) : Promise L ε α := ExceptT.mk (pure result)

/-- What is left of a task that catches errors. -/
def catching (m : Promise L ε α) (handler : ε → Promise L ε α) : Promise L ε α :=
  ExceptT.mk (m.run >>= fun
    | .ok value => pure (.ok value)
    | .error error => (handler error).run)

/-- The two assertions of a task that may throw. -/
def Ends (ok : α → L.State → Prop) (err : ε → L.State → Prop) (result : Except ε α)
    (s : L.State) : Prop :=
  match result with
  | .ok value => ok value s
  | .error error => err error s

/-- `Async.Meets` for a task that may throw. -/
def Meets (terms : Terms L) (ok : α → L.State → Prop) (err : ε → L.State → Prop)
    (m : Promise L ε α) (s : L.State) : Prop :=
  Async.Meets terms (Ends ok err) m.run s

section Rules

variable {terms : Terms L} {ok : α → L.State → Prop} {ok' : β → L.State → Prop}
  {err err' : ε → L.State → Prop} {m : Promise L ε α} {f : α → Promise L ε β} {s : L.State}

theorem Meets.pure {value : α} (h : ok value s) : Meets terms ok err (pure value) s := h

theorem Meets.throw {error : ε} (h : err error s) :
    Meets terms ok err (throw error : Promise L ε α) s := h

/-- Sequences. -/
theorem Meets.bind (hm : Meets terms ok err m s)
    (hf : ∀ value t, ok value t → Meets terms ok' err (f value) t) :
    Meets terms ok' err (m >>= f) s := by
  refine Async.Meets.bind hm fun result t hresult => ?_
  cases result with
  | ok value => exact hf value t hresult
  | error error => exact hresult

/-- Weaker assertions. -/
theorem Meets.imp {weaker : α → L.State → Prop} (hm : Meets terms ok err m s)
    (hok : ∀ value t, ok value t → weaker value t)
    (herr : ∀ error t, err error t → err' error t) : Meets terms weaker err' m s := by
  refine Async.Meets.imp hm fun result t hresult => ?_
  cases result with
  | ok value => exact hok value t hresult
  | error error => exact herr error t hresult

/-- Errors that are caught. -/
theorem Meets.catching {handler : ε → Promise L ε α} (hm : Meets terms ok err m s)
    (hhandler : ∀ error t, err error t → Meets terms ok err' (handler error) t) :
    Meets terms ok err' (catching m handler) s := by
  refine Async.Meets.bind hm fun result t hresult => ?_
  cases result with
  | ok value => exact hresult
  | error error => exact hhandler error t hresult

/-- The steps of a task, each with what follows it. -/
theorem Meets.read_bind {f : L.State → Promise L ε β} (h : Meets terms ok' err (f s) s) :
    Meets terms ok' err (read >>= f) s := h

theorem Meets.write_bind {g : L.State → L.State} {f : Unit → Promise L ε β}
    (hguar : terms.guar s (g s)) (h : Meets terms ok' err (f ()) (g s)) :
    Meets terms ok' err (write g >>= f) s := ⟨hguar, h⟩

theorem Meets.ask_bind {query : L.Query} {f : L.Reply query → Promise L ε β}
    (h : ∀ reply, terms.replied s query reply → Meets terms ok' err (f reply) s) :
    Meets terms ok' err (ask query >>= f) s := h

theorem Meets.await_bind {call : L.Call} {f : L.Answer call → Promise L ε β}
    (h : ∀ t, terms.rely s t → terms.rest t ∧
      ∀ answer, terms.answered t call answer → Meets terms ok' err (f answer) t) :
    Meets terms ok' err (await call >>= f) s := h

theorem Meets.park {head : L.Head} (h : terms.head head s) :
    Meets terms ok err (park head) s := h

theorem Meets.ofExcept {result : Except ε α} (h : Ends ok err result s) :
    Meets terms ok err (ofExcept result) s := h

end Rules

end Promise

import Automaton.Library.Persist

/-!
# Coroutines of a single-threaded host

A host keeps a state that atomic operations update, and makes calls to the outside. A
coroutine reads the state, performs operations and makes calls; at a call it waits, and
other coroutines may run before the reply is delivered. Between two calls nothing runs but
the coroutine itself.
-/

open Persist

/-- A host: its atomic operations with their results, and its calls with their replies. -/
structure Host where
  State : Type
  Env : Type
  Error : Type
  Op : Type
  Result : Op → Type
  perform : (op : Op) → EStateM Error State (Result op)
  Call : Type
  Reply : Call → Type

variable {H : Host} {α β ε : Type}

/-- A computation of a host that may wait for replies. -/
inductive Coroutine (H : Host) (α : Type) : Type
  | done (value : α)
  | read (next : H.State → Coroutine H α)
  | sense (next : H.Env → Coroutine H α)
  | op (op : H.Op) (next : Except H.Error (H.Result op) → Coroutine H α)
  | call (call : H.Call) (next : H.Reply call → Coroutine H α)

namespace Coroutine

/-- Continues with the value of a coroutine. -/
protected def bind (m : Coroutine H α) (f : α → Coroutine H β) : Coroutine H β :=
  match m with
  | .done value => f value
  | .read next => .read fun state => (next state).bind f
  | .sense next => .sense fun env => (next env).bind f
  | .op o next => .op o fun result => (next result).bind f
  | .call c next => .call c fun reply => (next reply).bind f

instance : Monad (Coroutine H) where
  pure := .done
  bind := Coroutine.bind

/-- The coroutine has ended. -/
def isDone : Coroutine H α → Bool
  | .done _ => true
  | _ => false

/-- What happens until the next call: the operations with the states they were performed
in, the state that is left, and what is still to be done. -/
structure Segment (H : Host) (α : Type) where
  log : List (H.Op × H.State)
  state : H.State
  rest : Coroutine H α

/-- Runs a coroutine up to its next call or its end. -/
def advance (env : H.Env) : Coroutine H α → H.State → Segment H α
  | .done value, s => ⟨[], s, .done value⟩
  | .read next, s => advance env (next s) s
  | .sense next, s => advance env (next env) s
  | .op o next, s =>
    let segment := advance env (next (outcome (H.perform o) s)) (after (H.perform o) s)
    ⟨(o, s) :: segment.log, segment.state, segment.rest⟩
  | .call c next, s => ⟨[], s, .call c next⟩

/-- Delivers the reply to a coroutine that waits for one. -/
def resume (answers : (c : H.Call) → H.Reply c) (env : H.Env) (m : Coroutine H α)
    (s : H.State) : Option (Segment H α) :=
  match m with
  | .call c next => some (advance env (next (answers c)) s)
  | _ => none

/-- As long as the state meets `inv`, every operation of the coroutine is one of `ops`, and
its value meets `post`. -/
def Keeps (inv : H.State → Prop) (ops : H.Op → Prop) (post : α → Prop) : Coroutine H α → Prop
  | .done value => post value
  | .read next => ∀ s, inv s → Keeps inv ops post (next s)
  | .sense next => ∀ env, Keeps inv ops post (next env)
  | .op o next => ops o ∧ ∀ s, inv s → Keeps inv ops post (next (outcome (H.perform o) s))
  | .call _ next => ∀ reply, Keeps inv ops post (next reply)

section Rules

variable {inv inv' : H.State → Prop} {ops ops' : H.Op → Prop} {post : α → Prop}
  {post' : β → Prop} {m : Coroutine H α} {f : α → Coroutine H β}

theorem Keeps.pure {value : α} (h : post value) :
    Keeps inv ops post (pure value : Coroutine H α) := h

/-- Sequences, with an assertion about the value in between. -/
theorem Keeps.bind (hm : Keeps inv ops post m) (hf : ∀ a, post a → Keeps inv ops post' (f a)) :
    Keeps inv ops post' (m >>= f) := by
  induction m with
  | done value => exact hf value hm
  | read next ih => exact fun s hs => ih s (hm s hs)
  | sense next ih => exact fun env => ih env (hm env)
  | op o next ih => exact ⟨hm.1, fun s hs => ih _ (hm.2 s hs)⟩
  | call c next ih => exact fun reply => ih reply (hm reply)

/-- A stronger invariant, more operations and a weaker assertion are kept too. -/
theorem Keeps.mono {post' : α → Prop} (hm : Keeps inv ops post m) (hinv : ∀ s, inv' s → inv s)
    (hops : ∀ o, ops o → ops' o) (hpost : ∀ a, post a → post' a) : Keeps inv' ops' post' m := by
  induction m with
  | done value => exact hpost value hm
  | read next ih => exact fun s hs => ih s (hm s (hinv s hs))
  | sense next ih => exact fun env => ih env (hm env)
  | op o next ih => exact ⟨hops o hm.1, fun s hs => ih _ (hm.2 s (hinv s hs))⟩
  | call c next ih => exact fun reply => ih reply (hm reply)

/-- What a coroutine does until its next call: its operations are among `ops` and find the
invariant, which holds at the end too, and the rest keeps them. -/
theorem Keeps.advance {env : H.Env} {s : H.State} (hm : Keeps inv ops post m) (hs : inv s)
    (hstep : ∀ o s, ops o → inv s → inv (after (H.perform o) s)) :
    (∀ entry ∈ (advance env m s).log, ops entry.1 ∧ inv entry.2) ∧
      inv (advance env m s).state ∧ Keeps inv ops post (advance env m s).rest := by
  induction m generalizing s with
  | done value => exact ⟨by simp [Coroutine.advance], hs, hm⟩
  | read next ih => exact ih s (hm s hs) hs
  | sense next ih => exact ih env (hm env) hs
  | op o next ih =>
    obtain ⟨hlog, hend, hrest⟩ := ih _ (hm.2 s hs) (hstep o s hm.1 hs)
    refine ⟨?_, hend, hrest⟩
    intro entry hentry
    rcases List.mem_cons.mp hentry with rfl | hmem
    · exact ⟨hm.1, hs⟩
    · exact hlog entry hmem
  | call c next ih => exact ⟨by simp [Coroutine.advance], hs, hm⟩

/-- The same from the reply to a call on. -/
theorem Keeps.resume {answers : (c : H.Call) → H.Reply c} {env : H.Env} {s : H.State}
    {segment : Segment H α} (hm : Keeps inv ops post m) (hs : inv s)
    (hstep : ∀ o s, ops o → inv s → inv (after (H.perform o) s))
    (hresume : resume answers env m s = some segment) :
    (∀ entry ∈ segment.log, ops entry.1 ∧ inv entry.2) ∧
      inv segment.state ∧ Keeps inv ops post segment.rest := by
  cases m with
  | call c next =>
    obtain rfl := Option.some.inj hresume
    exact (hm (answers c)).advance hs hstep
  | done value => cases hresume
  | read next => cases hresume
  | sense next => cases hresume
  | op o next => cases hresume

end Rules

end Coroutine

/-- A coroutine that may stop with an error. -/
abbrev Fiber (H : Host) (ε α : Type) := ExceptT ε (Coroutine H) α

namespace Fiber

/-- `read_state`. -/
def read : Fiber H ε H.State := ExceptT.lift (.read .done)

/-- The environment of the current message. -/
def sense : Fiber H ε H.Env := ExceptT.lift (.sense .done)

/-- An operation whose error is the error of the fiber. -/
def op (o : H.Op) : Fiber H H.Error (H.Result o) := ExceptT.mk (.op o .done)

/-- A call. -/
def call (c : H.Call) : Fiber H ε (H.Reply c) := ExceptT.lift (.call c .done)

/-- The outcome of a fiber, as a value. -/
def attempt (m : Fiber H ε α) {ε' : Type} : Fiber H ε' (Except ε α) := ExceptT.lift m.run

/-- A fiber with another error. -/
def mapError {ε' : Type} (f : ε → ε') (m : Fiber H ε α) : Fiber H ε' α :=
  ExceptT.mk (m.run >>= fun
    | .ok value => pure (.ok value)
    | .error error => pure (.error (f error)))

/-- A pure step that may fail. -/
def ofExcept (result : Except ε α) : Fiber H ε α := ExceptT.mk (pure result)

/-- `Coroutine.Keeps` for a fiber, with an assertion about its value. -/
def Keeps (inv : H.State → Prop) (ops : H.Op → Prop) (post : α → Prop) (m : Fiber H ε α) : Prop :=
  Coroutine.Keeps inv ops (fun result => ∀ value, result = .ok value → post value) m.run

section Rules

variable {inv : H.State → Prop} {ops : H.Op → Prop} {post : α → Prop} {post' : β → Prop}
  {m : Fiber H ε α} {f : α → Fiber H ε β}

theorem Keeps.pure {value : α} (h : post value) :
    Keeps inv ops post (pure value : Fiber H ε α) :=
  fun _ heq => Except.ok.inj heq ▸ h

theorem Keeps.throw {error : ε} : Keeps inv ops post (throw error : Fiber H ε α) :=
  fun _ heq => nomatch heq

/-- Sequences. -/
theorem Keeps.bind (hm : Keeps inv ops post m) (hf : ∀ a, post a → Keeps inv ops post' (f a)) :
    Keeps inv ops post' (m >>= f) := by
  refine Coroutine.Keeps.bind hm fun result hresult => ?_
  cases result with
  | ok value => exact hf value (hresult value rfl)
  | error error => exact fun _ heq => nomatch heq

/-- Reading a state gives one that meets the invariant. -/
theorem Keeps.read : Keeps inv ops inv (read : Fiber H ε H.State) :=
  fun _ hs _ heq => Except.ok.inj heq ▸ hs

theorem Keeps.sense : Keeps inv ops (fun _ => True) (sense : Fiber H ε H.Env) :=
  fun _ _ _ => trivial

theorem Keeps.call {c : H.Call} : Keeps inv ops (fun _ => True) (call c : Fiber H ε (H.Reply c)) :=
  fun _ _ _ => trivial

/-- An operation, with what its result tells about a state of the invariant. -/
theorem Keeps.op {o : H.Op} {post : H.Result o → Prop} (ho : ops o)
    (hpost : ∀ s, inv s → ∀ value, outcome (H.perform o) s = .ok value → post value) :
    Keeps inv ops post (op o) :=
  ⟨ho, fun s hs value heq => hpost s hs value heq⟩

theorem Keeps.ofExcept {result : Except ε α} (h : ∀ value, result = .ok value → post value) :
    Keeps inv ops post (ofExcept result : Fiber H ε α) := h

/-- The outcome of a fiber. -/
theorem Keeps.attempt {ε' : Type} (hm : Keeps inv ops post m) :
    Keeps inv ops (fun result => ∀ value, result = .ok value → post value)
      (attempt m : Fiber H ε' (Except ε α)) := by
  refine Coroutine.Keeps.bind hm fun result hresult => ?_
  exact fun _ heq => Except.ok.inj heq ▸ hresult

theorem Keeps.mapError {ε' : Type} {g : ε → ε'} (hm : Keeps inv ops post m) :
    Keeps inv ops post (mapError g m) := by
  refine Coroutine.Keeps.bind hm fun result hresult => ?_
  cases result with
  | ok value =>
    exact Coroutine.Keeps.pure fun other heq => hresult other (congrArg _ (Except.ok.inj heq))
  | error error => exact Coroutine.Keeps.pure fun _ heq => nomatch heq

/-- A weaker assertion. -/
theorem Keeps.imp {post' : α → Prop} (hm : Keeps inv ops post m) (h : ∀ a, post a → post' a) :
    Keeps inv ops post' m :=
  Coroutine.Keeps.mono hm (fun _ hs => hs) (fun _ ho => ho)
    fun _ hresult value heq => h value (hresult value heq)

/-- More operations. -/
theorem Keeps.weaken {ops' : H.Op → Prop} (hm : Keeps inv ops post m)
    (hops : ∀ o, ops o → ops' o) : Keeps inv ops' post m :=
  Coroutine.Keeps.mono hm (fun _ hs => hs) hops fun _ h => h

end Rules

end Fiber

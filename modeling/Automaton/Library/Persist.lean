import Mathlib.Tactic

/-!
# Updates that persist when they fail

An update reads and writes a state and may stop with an error; what it wrote before the
error stays. `after` is the state it leaves behind in either case. What every step of an
update respects, the whole update respects.
-/

namespace Persist

variable {ε σ α β : Type}

/-- The state that an update leaves behind, whether it succeeds or fails. -/
def after (m : EStateM ε σ α) (s : σ) : σ :=
  match m s with
  | .ok _ s' => s'
  | .error _ s' => s'

/-- What an update returns. -/
def outcome (m : EStateM ε σ α) (s : σ) : Except ε α :=
  match m s with
  | .ok a _ => .ok a
  | .error e _ => .error e

/-- An update that is made only under a condition. -/
def when (c : Prop) [Decidable c] (m : EStateM ε σ Unit) : EStateM ε σ Unit :=
  if c then m else pure ()

/-- Every use of an update stays within a relation between states. -/
def Within (R : σ → σ → Prop) (m : EStateM ε σ α) : Prop := ∀ s, R s (after m s)

section Evaluation

variable {m : EStateM ε σ α} {f : α → EStateM ε σ β} {s s' : σ} {a : α} {e : ε}

/-- A sequence runs its second part where the first one succeeds. -/
theorem run_bind : (m >>= f) s =
    match m s with
    | .ok a s' => f a s'
    | .error e s' => .error e s' := rfl

theorem run_pure : (pure a : EStateM ε σ α) s = .ok a s := rfl

theorem run_when_pos {c : Prop} [Decidable c] {m : EStateM ε σ Unit} (hc : c) :
    when c m s = m s := by
  rw [when, if_pos hc]

theorem run_when_neg {c : Prop} [Decidable c] {m : EStateM ε σ Unit} (hc : ¬ c) :
    when c m s = .ok () s := by
  rw [when, if_neg hc]
  rfl

theorem run_throw : (throw e : EStateM ε σ α) s = .error e s := rfl

/-- An update whose result is not used. -/
theorem run_discard : (discard m : EStateM ε σ PUnit) s =
    match m s with
    | .ok _ s' => .ok ⟨⟩ s'
    | .error e s' => .error e s' := rfl

theorem run_ofExcept_ok : (ofExcept (.ok a : Except ε α) : EStateM ε σ α) s = .ok a s := rfl

theorem run_ofExcept_error :
    (ofExcept (.error e : Except ε α) : EStateM ε σ α) s = .error e s := rfl

theorem run_get : (get : EStateM ε σ σ) s = .ok s s := rfl

theorem run_modify {g : σ → σ} : (modify g : EStateM ε σ PUnit) s = .ok ⟨⟩ (g s) := rfl

@[simp] theorem after_pure : after (pure a : EStateM ε σ α) s = s := rfl

@[simp] theorem outcome_pure : outcome (pure a : EStateM ε σ α) s = .ok a := rfl

@[simp] theorem after_throw : after (throw e : EStateM ε σ α) s = s := rfl

@[simp] theorem outcome_throw : outcome (throw e : EStateM ε σ α) s = .error e := rfl

@[simp] theorem after_modify {g : σ → σ} : after (modify g : EStateM ε σ PUnit) s = g s := rfl

@[simp] theorem outcome_modify {g : σ → σ} :
    outcome (modify g : EStateM ε σ PUnit) s = .ok PUnit.unit := rfl

@[simp] theorem after_get : after (get : EStateM ε σ σ) s = s := rfl

@[simp] theorem after_ofExcept (result : Except ε α) :
    after (ofExcept result : EStateM ε σ α) s = s := by
  cases result <;> rfl

@[simp] theorem outcome_get : outcome (get : EStateM ε σ σ) s = .ok s := rfl

/-- An update that succeeds ends in the state it leaves behind. -/
theorem run_eq_ok (h : (outcome m s).isOk = true) : ∃ a, m s = .ok a (after m s) := by
  unfold outcome at h
  unfold after
  cases hm : m s with
  | ok a t => exact ⟨a, rfl⟩
  | error e t =>
    rw [hm] at h
    cases h

/-- An update that succeeds returns a value. -/
theorem outcome_of_isOk (h : (outcome m s).isOk = true) : ∃ a, outcome m s = .ok a := by
  cases hm : outcome m s with
  | ok a => exact ⟨a, rfl⟩
  | error e =>
    rw [hm] at h
    cases h

theorem after_of_ok {t : σ} (h : m s = .ok a t) : after m s = t := by
  rw [after, h]

theorem after_of_error {t : σ} (h : m s = .error e t) : after m s = t := by
  rw [after, h]

/-- Updates that run alike leave the same state behind. -/
theorem after_congr {m' : EStateM ε σ α} (h : m s = m' s) : after m s = after m' s := by
  rw [after, h, after]

/-- Updates that run alike return the same. -/
theorem outcome_congr {m' : EStateM ε σ α} (h : m s = m' s) : outcome m s = outcome m' s := by
  rw [outcome, h, outcome]

/-- After a step that succeeds the next one runs. -/
theorem after_bind_of_ok (h : outcome m s = .ok a) :
    after (m >>= f) s = after (f a) (after m s) := by
  simp only [outcome, after, bind, EStateM.bind] at h ⊢
  cases hm : m s with
  | ok b t =>
    rw [hm] at h
    cases h
    rfl
  | error e t =>
    rw [hm] at h
    cases h

/-- After a step that fails nothing runs. -/
theorem after_bind_of_error (h : outcome m s = .error e) :
    after (m >>= f) s = after m s := by
  simp only [outcome, after, bind, EStateM.bind] at h ⊢
  cases hm : m s with
  | ok b t =>
    rw [hm] at h
    cases h
  | error e t => rfl

/-- The outcome of a sequence, when the first part succeeds. -/
theorem outcome_bind_of_ok (h : outcome m s = .ok a) :
    outcome (m >>= f) s = outcome (f a) (after m s) := by
  simp only [outcome, after, bind, EStateM.bind] at h ⊢
  cases hm : m s with
  | ok b t =>
    rw [hm] at h
    cases h
    rfl
  | error e t =>
    rw [hm] at h
    cases h

/-- The outcome of a sequence, when the first part fails. -/
theorem outcome_bind_of_error (h : outcome m s = .error e) :
    outcome (m >>= f) s = .error e := by
  simp only [outcome, bind, EStateM.bind] at h ⊢
  cases hm : m s with
  | ok b t =>
    rw [hm] at h
    cases h
  | error e' t =>
    rw [hm] at h
    cases h
    rfl

/-- A sequence succeeds exactly when both parts do. -/
theorem outcome_bind_eq_ok {b : β} : outcome (m >>= f) s = .ok b ↔
    ∃ a, outcome m s = .ok a ∧ outcome (f a) (after m s) = .ok b := by
  cases h : outcome m s with
  | ok a => simp [outcome_bind_of_ok h]
  | error e => simp [outcome_bind_of_error h]

/-- A sequence fails in its first part, or after it in its second one. -/
theorem run_bind_eq_error {t : σ} : (m >>= f) s = .error e t ↔
    m s = .error e t ∨ ∃ a u, m s = .ok a u ∧ f a u = .error e t := by
  rw [run_bind]
  cases m s with
  | ok a u => simp
  | error e' u => simp

/-- Reading or computing beforehand fails where it starts. -/
theorem run_ofExcept_eq_error {result : Except ε α} {t : σ} :
    (ofExcept result : EStateM ε σ α) s = .error e t ↔ result = .error e ∧ s = t := by
  cases result with
  | ok a => simp [run_ofExcept_ok]
  | error e' => simp [run_ofExcept_error]

end Evaluation

section Rules

variable {R : σ → σ → Prop} {m : EStateM ε σ α} {f : α → EStateM ε σ β}

/-- Two steps from a state stay within a transitive relation when each does there. -/
theorem after_bind_within {s : σ} (htrans : ∀ {s t u}, R s t → R t u → R s u)
    (hm : R s (after m s)) (hf : ∀ a, R (after m s) (after (f a) (after m s))) :
    R s (after (m >>= f) s) := by
  cases h : outcome m s with
  | ok a =>
    rw [after_bind_of_ok h]
    exact htrans hm (hf a)
  | error e =>
    rw [after_bind_of_error h]
    exact hm

/-- Steps that stay within a transitive relation compose. -/
theorem Within.bind (htrans : ∀ {s t u}, R s t → R t u → R s u) (hm : Within R m)
    (hf : ∀ a, Within R (f a)) : Within R (m >>= f) := by
  intro s
  exact after_bind_within htrans (hm s) fun a => hf a _

/-- Returning a value changes nothing. -/
theorem Within.pure (hrefl : ∀ s, R s s) (a : α) : Within R (pure a : EStateM ε σ α) :=
  fun s => hrefl s

/-- A conditional update is within the relation when the update is. -/
theorem Within.when (hrefl : ∀ s, R s s) {c : Prop} [Decidable c] {m : EStateM ε σ Unit}
    (hm : Within R m) : Within R (when c m) := by
  unfold Persist.when
  split
  · exact hm
  · exact Within.pure hrefl ()

/-- Failing changes nothing. -/
theorem Within.throw (hrefl : ∀ s, R s s) (e : ε) : Within R (throw e : EStateM ε σ α) :=
  fun s => hrefl s

/-- Reading changes nothing. -/
theorem Within.get (hrefl : ∀ s, R s s) : Within R (get : EStateM ε σ σ) := fun s => hrefl s

/-- A step that is computed beforehand changes nothing. -/
theorem Within.ofExcept (hrefl : ∀ s, R s s) (result : Except ε α) :
    Within R (ofExcept result : EStateM ε σ α) := by
  cases result with
  | ok a => exact Within.pure hrefl a
  | error e => exact Within.throw hrefl e

/-- What is done with the result does not matter. -/
theorem Within.map {f : α → β} (htrans : ∀ {s t u}, R s t → R t u → R s u)
    (hrefl : ∀ s, R s s) (hm : Within R m) : Within R (f <$> m) :=
  Within.bind htrans hm fun _ => Within.pure hrefl _

/-- An update whose result is not used. -/
theorem Within.discard (hrefl : ∀ s, R s s) (htrans : ∀ {s t u}, R s t → R t u → R s u)
    (hm : Within R m) : Within R (discard m : EStateM ε σ PUnit) :=
  Within.bind htrans hm fun _ => Within.pure hrefl _

/-- Steps over a list compose. -/
theorem Within.mapM {ι : Type} {g : ι → EStateM ε σ α} (hrefl : ∀ s, R s s)
    (htrans : ∀ {s t u}, R s t → R t u → R s u) (hg : ∀ item, Within R (g item))
    {items : List ι} : Within R (items.mapM g) := by
  induction items with
  | nil => exact Within.pure hrefl []
  | cons item items ih =>
    rw [List.mapM_cons]
    exact Within.bind htrans (hg item) fun _ =>
      Within.bind htrans ih fun _ => Within.pure hrefl _

/-- Steps over a list of distinct items, each of which needs something of the state that the
steps of the others keep. -/
theorem after_mapM_within {ι : Type} {g : ι → EStateM ε σ α} (pre : ι → σ → Prop)
    (hrefl : ∀ s, R s s) (htrans : ∀ {s t u}, R s t → R t u → R s u)
    (hg : ∀ item s, pre item s → R s (after (g item) s))
    (hkeeps : ∀ item other s, other ≠ item → pre other s → pre other (after (g item) s))
    {items : List ι} (hnodup : items.Nodup) {s : σ} (hpre : ∀ item ∈ items, pre item s) :
    R s (after (items.mapM g) s) := by
  induction items generalizing s with
  | nil => exact hrefl s
  | cons item items ih =>
    rw [List.nodup_cons] at hnodup
    rw [List.mapM_cons]
    refine after_bind_within htrans (hg item s (hpre item List.mem_cons_self)) fun _ => ?_
    refine after_bind_within htrans (ih hnodup.2 fun other hother => ?_) fun _ => hrefl _
    refine hkeeps item other s ?_ (hpre other (List.mem_cons_of_mem _ hother))
    rintro rfl
    exact hnodup.1 hother

/-- A write is within the relation when its effect is. -/
theorem Within.modify {g : σ → σ} (h : ∀ s, R s (g s)) :
    Within R (modify g : EStateM ε σ PUnit) := h

end Rules

end Persist

import Mathlib.Tactic

/-!
# Calls that can be rolled back

A world together with the calls that are running in it, the innermost one first. Each call has kept
the world from before it, which comes back when the call fails. A property of worlds that may depend
on the running calls is kept by all of this, as soon as the code of the calls keeps it.
-/

namespace CallStack

/-- A running call: the world before it and what the caller goes on with. -/
structure Frame (σ φ : Type*) where
  saved : σ
  label : φ

/-- A world and the calls that are running in it. -/
structure Config (σ φ : Type*) where
  world : σ
  frames : List (Frame σ φ)

variable {σ φ : Type*} {ok : List φ → σ → Prop} {config : Config σ φ} {world : σ} {label : φ}
  {frame : Frame σ φ} {frames : List (Frame σ φ)}

namespace Config

/-- The labels of the running calls. -/
def labels (frames : List (Frame σ φ)) : List φ := frames.map Frame.label

/-- A call begins. -/
def call (config : Config σ φ) (label : φ) (world : σ) : Config σ φ where
  world := world
  frames := ⟨config.world, label⟩ :: config.frames

/-- The innermost call returns to its caller. -/
def ret (config : Config σ φ) (resume : φ → σ → σ) : Config σ φ :=
  match config.frames with
  | [] => config
  | frame :: frames => ⟨resume frame.label config.world, frames⟩

/-- The innermost call fails, and everything since its begin is undone. -/
def revert (config : Config σ φ) : Config σ φ :=
  match config.frames with
  | [] => config
  | frame :: frames => ⟨frame.saved, frames⟩

end Config

/-- The kept worlds have a property, each under the calls that are around its call. -/
def SavedSound (ok : List φ → σ → Prop) : List (Frame σ φ) → Prop
  | [] => True
  | frame :: frames => ok (Config.labels frames) frame.saved ∧ SavedSound ok frames

/-- The world has a property, and so do the worlds that may come back. -/
def Sound (ok : List φ → σ → Prop) (config : Config σ φ) : Prop :=
  ok (Config.labels config.frames) config.world ∧ SavedSound ok config.frames

/-- Nothing is running yet. -/
theorem sound_nil (h : ok [] world) : Sound ok ⟨world, []⟩ := ⟨h, trivial⟩

/-- The world may change under the running calls. -/
theorem Sound.act (h : Sound ok config) (hact : ok (Config.labels config.frames) world) :
    Sound ok { config with world } :=
  ⟨hact, h.2⟩

/-- A call may begin. -/
theorem Sound.call (h : Sound ok config)
    (hcall : ok (label :: Config.labels config.frames) world) :
    Sound ok (config.call label world) :=
  ⟨hcall, h⟩

/-- A call may return. -/
theorem Sound.ret {resume : φ → σ → σ} (h : Sound ok config)
    (hret : ∀ label labels world, ok (label :: labels) world → ok labels (resume label world)) :
    Sound ok (config.ret resume) := by
  unfold Config.ret
  split
  · exact h
  · rename_i frame frames hframes
    obtain ⟨hworld, hsaved⟩ := h
    rw [hframes] at hworld hsaved
    exact ⟨hret _ _ _ hworld, hsaved.2⟩

/-- A call may fail. -/
theorem Sound.revert (h : Sound ok config) : Sound ok config.revert := by
  unfold Config.revert
  split
  · exact h
  · rename_i frame frames hframes
    obtain ⟨-, hsaved⟩ := h
    rw [hframes] at hsaved
    exact hsaved

end CallStack

import Automaton.Library.BTreeMap

/-!
# The rate limiter of the RPC gateway

The calls of an address are counted from a first one on. When the window of the first call is over,
the next call is a first one again. Entries whose windows are over are pruned, at most once in the
length of a window, by the call of any address. Times are in milliseconds.
-/

namespace Automaton.RpcGateway

/-- An entry of the map: how many calls were allowed, and when the window is over. -/
structure IpEntry where
  count : ℕ
  resetAt : ℕ
  deriving DecidableEq, Repr

/-- `IpRateLimitResult`. -/
structure IpRateLimitResult where
  allowed : Bool
  remaining : ℕ
  resetAt : ℕ
  retryAfterMs : ℕ
  deriving DecidableEq, Repr

/-- The variables of `createIpRateLimiter`. -/
structure RateLimiter where
  entries : BTreeMap String IpEntry
  nextPruneAt : ℕ

/-- A limiter before any call. -/
def RateLimiter.new : RateLimiter := ⟨∅, 0⟩

section Check

variable (maxRequests windowMs : ℕ)

/-- `pruneExpired`. -/
def RateLimiter.pruneExpired (limiter : RateLimiter) (currentTime : ℕ) : RateLimiter :=
  if currentTime < limiter.nextPruneAt then limiter
  else {
    entries := limiter.entries.filter fun _ entry => currentTime < entry.resetAt
    nextPruneAt := currentTime + windowMs }

/-- What `check` does with the entry of an address: the decision, and the entry that is stored. -/
def checkEntry (entry : Option IpEntry) (currentTime : ℕ) : IpRateLimitResult × IpEntry :=
  match entry.filter fun entry => currentTime < entry.resetAt with
  | none =>
    let nextEntry := ⟨1, currentTime + windowMs⟩
    (⟨true, maxRequests - 1, nextEntry.resetAt, 0⟩, nextEntry)
  | some entry =>
    if maxRequests ≤ entry.count then
      (⟨false, 0, entry.resetAt, entry.resetAt - currentTime⟩, entry)
    else
      let nextEntry := { entry with count := entry.count + 1 }
      (⟨true, maxRequests - nextEntry.count, entry.resetAt, 0⟩, nextEntry)

/-- `check`. -/
def RateLimiter.check (limiter : RateLimiter) (ip : String) (currentTime : ℕ) :
    IpRateLimitResult × RateLimiter :=
  let pruned := limiter.pruneExpired windowMs currentTime
  let checked := checkEntry maxRequests windowMs pruned.entries[ip]? currentTime
  (checked.1, { pruned with entries := pruned.entries.insert ip checked.2 })

/-- A call: the address and the time. -/
structure RateCall where
  ip : String
  time : ℕ
  deriving DecidableEq, Repr

/-- The decisions about calls, one after the other. -/
def RateLimiter.decisions (limiter : RateLimiter) : List RateCall → List IpRateLimitResult
  | [] => []
  | call :: calls =>
    let checked := limiter.check maxRequests windowMs call.ip call.time
    checked.1 :: checked.2.decisions calls

/-- The limiter after calls. -/
def RateLimiter.run (limiter : RateLimiter) (calls : List RateCall) : RateLimiter :=
  calls.foldl (fun limiter call => (limiter.check maxRequests windowMs call.ip call.time).2) limiter

end Check

/-- The calls come in the order of their times. -/
def Ordered (calls : List RateCall) : Prop :=
  calls.Pairwise fun earlier later => earlier.time ≤ later.time

section Live

variable {maxRequests windowMs now later : ℕ} {limiter other : RateLimiter} {ip : String}
  {calls : List RateCall}

/-- The entry of an address whose window is not over. -/
def RateLimiter.live (limiter : RateLimiter) (ip : String) (now : ℕ) : Option IpEntry :=
  limiter.entries[ip]?.filter fun entry => now < entry.resetAt

variable (windowMs ip) in
/-- Pruning takes away only what is over. -/
theorem live_pruneExpired (limiter : RateLimiter) (h : now ≤ later) :
    (limiter.pruneExpired windowMs now).live ip later = limiter.live ip later := by
  unfold RateLimiter.pruneExpired RateLimiter.live
  split
  · rfl
  · dsimp only
    rw [Std.ExtTreeMap.getElem?_filter']
    cases limiter.entries[ip]? with
    | none => rfl
    | some entry =>
      by_cases hlive : later < entry.resetAt
      · rw [Option.filter_some, if_pos (by simpa using h.trans_lt hlive)]
      · have hover : (some entry).filter (fun entry => decide (later < entry.resetAt)) = none := by
          simpa using hlive
        rw [hover]
        exact Option.filter_eq_none_iff.mpr (by grind)

/-- An entry whose window is over decides nothing. -/
theorem checkEntry_filter (entry : Option IpEntry) :
    checkEntry maxRequests windowMs (entry.filter fun entry => now < entry.resetAt) now =
      checkEntry maxRequests windowMs entry now := by
  unfold checkEntry
  rw [Option.filter_filter]
  simp only [Bool.and_self]

/-- A decision is about the entry whose window is not over. -/
theorem checkEntry_pruned :
    checkEntry maxRequests windowMs (limiter.pruneExpired windowMs now).entries[ip]? now =
      checkEntry maxRequests windowMs (limiter.live ip now) now := by
  have hlive := live_pruneExpired windowMs ip limiter (le_refl now)
  rw [← hlive, ← checkEntry_filter]
  rfl

theorem check_fst : (limiter.check maxRequests windowMs ip now).1 =
    (checkEntry maxRequests windowMs (limiter.live ip now) now).1 :=
  congrArg Prod.fst checkEntry_pruned

/-- The entry of an address after its call. -/
theorem live_check_self : (limiter.check maxRequests windowMs ip now).2.live ip later =
    (some (checkEntry maxRequests windowMs (limiter.live ip now) now).2).filter
      fun entry => later < entry.resetAt := by
  unfold RateLimiter.check
  dsimp only
  rw [RateLimiter.live, BTreeMap.get?_insert, if_pos rfl, checkEntry_pruned]

/-- The call of another address leaves the entry. -/
theorem live_check_other {otherIp : String} (hother : otherIp ≠ ip) (h : now ≤ later) :
    (limiter.check maxRequests windowMs otherIp now).2.live ip later = limiter.live ip later := by
  unfold RateLimiter.check
  dsimp only
  rw [RateLimiter.live, BTreeMap.get?_insert, if_neg hother,
    ← live_pruneExpired windowMs ip limiter h]
  rfl

/-- From a time on, the entry of an address is the given one, or over. -/
def RateLimiter.Holds (limiter : RateLimiter) (ip : String) (now : ℕ) (entry : Option IpEntry) :
    Prop :=
  ∀ later, now ≤ later →
    limiter.live ip later = entry.filter fun entry => later < entry.resetAt

theorem holds_new (ip : String) (now : ℕ) : RateLimiter.new.Holds ip now none := by
  intro later _
  simp [RateLimiter.live, RateLimiter.new]

theorem RateLimiter.Holds.checkEntry_eq {entry : Option IpEntry} (h : limiter.Holds ip now entry) :
    checkEntry maxRequests windowMs (limiter.live ip now) now =
      checkEntry maxRequests windowMs entry now := by
  rw [h now (le_refl now), checkEntry_filter]

variable (maxRequests windowMs) in
theorem RateLimiter.Holds.check_self {entry : Option IpEntry} (h : limiter.Holds ip now entry) :
    (limiter.check maxRequests windowMs ip now).2.Holds ip now
      (some (checkEntry maxRequests windowMs entry now).2) := by
  intro later _
  rw [live_check_self, h.checkEntry_eq]

variable (maxRequests windowMs) in
theorem RateLimiter.Holds.check_other {entry : Option IpEntry} {otherIp : String}
    (h : limiter.Holds ip now entry) (hother : otherIp ≠ ip) {time : ℕ} (htime : now ≤ time) :
    (limiter.check maxRequests windowMs otherIp time).2.Holds ip time entry := by
  intro later hlater
  rw [live_check_other hother hlater]
  exact h later (htime.trans hlater)

theorem RateLimiter.Holds.mono {entry : Option IpEntry} (h : limiter.Holds ip now entry)
    (hlater : now ≤ later) : limiter.Holds ip later entry :=
  fun time htime => h time (hlater.trans htime)

end Live

section Clients

variable (maxRequests windowMs : ℕ)

/-- The decisions about the calls of one address, from its entry. -/
def entryDecisions (entry : Option IpEntry) : List ℕ → List IpRateLimitResult
  | [] => []
  | time :: times =>
    let checked := checkEntry maxRequests windowMs entry time
    checked.1 :: entryDecisions (some checked.2) times

/-- The times of the calls of one address that are allowed, from its entry. -/
def entryAllowed (entry : Option IpEntry) : List ℕ → List ℕ
  | [] => []
  | time :: times =>
    let checked := checkEntry maxRequests windowMs entry time
    let rest := entryAllowed (some checked.2) times
    if checked.1.allowed then time :: rest else rest

/-- The times of the calls of an address. -/
def timesOf (ip : String) (calls : List RateCall) : List ℕ :=
  (calls.filter (·.ip = ip)).map (·.time)

/-- Calls with the decisions about them. -/
def RateLimiter.decided (limiter : RateLimiter) (calls : List RateCall) :
    List (RateCall × IpRateLimitResult) :=
  calls.zip (limiter.decisions maxRequests windowMs calls)

/-- The decisions about the calls of an address. -/
def RateLimiter.decisionsOf (limiter : RateLimiter) (ip : String) (calls : List RateCall) :
    List IpRateLimitResult :=
  ((limiter.decided maxRequests windowMs calls).filter (·.1.ip = ip)).map (·.2)

/-- The times of the calls of an address that are allowed. -/
def RateLimiter.allowedOf (limiter : RateLimiter) (ip : String) (calls : List RateCall) : List ℕ :=
  ((limiter.decided maxRequests windowMs calls).filter fun decided =>
    decided.1.ip = ip && decided.2.allowed).map (·.1.time)

variable {maxRequests windowMs} {limiter : RateLimiter} {ip : String} {now : ℕ}
  {entry : Option IpEntry} {calls : List RateCall}

variable (maxRequests windowMs) in
/-- What is decided about an address depends on its own entry and calls. -/
theorem decisionsOf_eq (h : limiter.Holds ip now entry) (hordered : Ordered calls)
    (htimes : ∀ call ∈ calls, now ≤ call.time) :
    limiter.decisionsOf maxRequests windowMs ip calls =
        entryDecisions maxRequests windowMs entry (timesOf ip calls) ∧
      limiter.allowedOf maxRequests windowMs ip calls =
        entryAllowed maxRequests windowMs entry (timesOf ip calls) := by
  induction calls generalizing limiter now entry with
  | nil => exact ⟨rfl, rfl⟩
  | cons call calls ih =>
    obtain ⟨hfirst, hrest⟩ := List.pairwise_cons.mp hordered
    have hnow := htimes call List.mem_cons_self
    have hcall := h.mono hnow
    have hdecided : limiter.decided maxRequests windowMs (call :: calls) =
        (call, (limiter.check maxRequests windowMs call.ip call.time).1) ::
          (limiter.check maxRequests windowMs call.ip call.time).2.decided maxRequests windowMs
            calls := rfl
    by_cases hip : call.ip = ip
    · subst hip
      have hnext := hcall.check_self maxRequests windowMs
      obtain ⟨hdecisions, hallowed⟩ := ih hnext hrest hfirst
      have htimesOf : timesOf call.ip (call :: calls) = call.time :: timesOf call.ip calls := by
        simp [timesOf]
      have hresult : (limiter.check maxRequests windowMs call.ip call.time).1 =
          (checkEntry maxRequests windowMs entry call.time).1 := by
        rw [check_fst, hcall.checkEntry_eq]
      constructor
      · rw [RateLimiter.decisionsOf, hdecided, htimesOf, entryDecisions,
          List.filter_cons_of_pos (by simp), List.map_cons, ← hdecisions, ← hresult]
        rfl
      · rw [RateLimiter.allowedOf, hdecided, htimesOf, entryAllowed, ← hallowed, ← hresult]
        by_cases hallow : (limiter.check maxRequests windowMs call.ip call.time).1.allowed = true
        · rw [List.filter_cons_of_pos (by simp [hallow]), List.map_cons, if_pos hallow]
          rfl
        · rw [List.filter_cons_of_neg (by simp [hallow]), if_neg hallow]
          rfl
    · have hnext := hcall.check_other maxRequests windowMs hip
        (le_refl call.time)
      obtain ⟨hdecisions, hallowed⟩ := ih hnext hrest hfirst
      have htimesOf : timesOf ip (call :: calls) = timesOf ip calls := by
        simp [timesOf, hip]
      constructor
      · rw [RateLimiter.decisionsOf, hdecided, htimesOf, List.filter_cons_of_neg (by simp [hip]),
          ← hdecisions]
        rfl
      · rw [RateLimiter.allowedOf, hdecided, htimesOf, List.filter_cons_of_neg (by simp [hip]),
          ← hallowed]
        rfl

variable (maxRequests windowMs) in
/-- The calls of other addresses leave the entry. -/
theorem RateLimiter.Holds.run_others (h : limiter.Holds ip now entry) (hordered : Ordered calls)
    (htimes : ∀ call ∈ calls, now ≤ call.time) (hothers : ∀ call ∈ calls, call.ip ≠ ip) {later : ℕ}
    (hnow : now ≤ later) (hlater : ∀ call ∈ calls, call.time ≤ later) :
    (limiter.run maxRequests windowMs calls).Holds ip later entry := by
  induction calls generalizing limiter now with
  | nil => exact h.mono hnow
  | cons call calls ih =>
    obtain ⟨hfirst, hrest⟩ := List.pairwise_cons.mp hordered
    have hnext := (h.mono (htimes call List.mem_cons_self)).check_other
      maxRequests windowMs (hothers call List.mem_cons_self)
      (le_refl call.time)
    exact ih hnext hrest hfirst (fun other hother => hothers other (List.mem_cons_of_mem _ hother))
      (hlater call List.mem_cons_self)
      (fun other hother => hlater other (List.mem_cons_of_mem _ hother))

/-- There is a decision about each call. -/
theorem length_decisions (limiter : RateLimiter) (calls : List RateCall) :
    (limiter.decisions maxRequests windowMs calls).length = calls.length := by
  induction calls generalizing limiter with
  | nil => rfl
  | cons call calls ih =>
    rw [RateLimiter.decisions, List.length_cons, ih, List.length_cons]

/-- The decisions about calls of one address only. -/
theorem decisionsOf_own (h : ∀ call ∈ calls, call.ip = ip) :
    limiter.decisionsOf maxRequests windowMs ip calls =
      limiter.decisions maxRequests windowMs calls := by
  have hown : ∀ decided ∈ limiter.decided maxRequests windowMs calls,
      decide (decided.1.ip = ip) = true := by
    intro decided hdecided
    exact decide_eq_true (h _ (List.of_mem_zip hdecided).1)
  rw [RateLimiter.decisionsOf, List.filter_eq_self.mpr hown, RateLimiter.decided,
    List.map_snd_zip (by rw [length_decisions])]

/-- Other addresses have no influence on what is decided about an address. -/
theorem decisionsOf_eq_decisions_filter (ip : String) (hordered : Ordered calls) :
    RateLimiter.new.decisionsOf maxRequests windowMs ip calls =
      RateLimiter.new.decisions maxRequests windowMs (calls.filter (·.ip = ip)) := by
  have hown : ∀ call ∈ calls.filter (·.ip = ip), call.ip = ip := by
    intro call hcall
    simpa using (List.mem_filter.mp hcall).2
  have htimes : timesOf ip (calls.filter (·.ip = ip)) = timesOf ip calls := by
    rw [timesOf, List.filter_filter]
    simp only [Bool.and_self]
    rfl
  have hall := (decisionsOf_eq maxRequests windowMs
    (holds_new ip 0) hordered fun _ _ => Nat.zero_le _).1
  have hfiltered := (decisionsOf_eq maxRequests windowMs
    (holds_new ip 0) (hordered.filter (·.ip = ip)) fun _ _ => Nat.zero_le _).1
  rw [hall, ← htimes, ← hfiltered, decisionsOf_own hown]

end Clients

section Groups

/-- Allowed calls of one address: the first call of a window, and the others that are counted. -/
structure WindowGroup where
  first : ℕ
  rest : List ℕ

def WindowGroup.times (group : WindowGroup) : List ℕ := group.first :: group.rest

/-- Groups are of at most the allowed calls, each within less than the window from its first call,
and the first calls are at least the window apart. -/
structure Grouped (maxRequests windowMs : ℕ) (groups : List WindowGroup) : Prop where
  bounded : ∀ group ∈ groups, group.times.length ≤ maxRequests
  within : ∀ group ∈ groups, ∀ time ∈ group.times,
    group.first ≤ time ∧ time < group.first + windowMs
  apart : groups.Pairwise fun earlier later => earlier.first + windowMs ≤ later.first

/-- How many of the times are in an interval of the length of the window, its ends included. -/
def inWindow (windowMs start : ℕ) (times : List ℕ) : ℕ :=
  (times.filter fun time => start ≤ time && time ≤ start + windowMs).length

variable {maxRequests windowMs start : ℕ} {entry : IpEntry} {time : ℕ} {times : List ℕ}
  {group : WindowGroup} {groups : List WindowGroup}

/-- The first call after a window opens the next one. -/
theorem checkEntry_over (h : entry.resetAt ≤ time) :
    checkEntry maxRequests windowMs (some entry) time =
      (⟨true, maxRequests - 1, time + windowMs, 0⟩, ⟨1, time + windowMs⟩) := by
  have hover : (some entry).filter (fun entry => decide (time < entry.resetAt)) = none := by
    simpa using h
  rw [checkEntry, hover]

/-- At the bound the call is refused. -/
theorem checkEntry_full (hlive : time < entry.resetAt) (hfull : maxRequests ≤ entry.count) :
    checkEntry maxRequests windowMs (some entry) time =
      (⟨false, 0, entry.resetAt, entry.resetAt - time⟩, entry) := by
  rw [checkEntry, Option.filter_some, if_pos (decide_eq_true hlive)]
  exact if_pos hfull

/-- Below the bound the call is counted. -/
theorem checkEntry_counted (hlive : time < entry.resetAt) (hcount : entry.count < maxRequests) :
    checkEntry maxRequests windowMs (some entry) time =
      (⟨true, maxRequests - (entry.count + 1), entry.resetAt, 0⟩,
        { entry with count := entry.count + 1 }) := by
  rw [checkEntry, Option.filter_some, if_pos (decide_eq_true hlive)]
  exact if_neg hcount.not_ge

theorem mem_of_mem_entryAllowed {entry : Option IpEntry}
    (h : time ∈ entryAllowed maxRequests windowMs entry times) : time ∈ times := by
  induction times generalizing entry with
  | nil => exact h
  | cons first times ih =>
    rw [entryAllowed] at h
    split at h
    · rcases List.mem_cons.mp h with rfl | hrest
      · exact List.mem_cons_self
      · exact List.mem_cons_of_mem _ (ih hrest)
    · exact List.mem_cons_of_mem _ (ih h)

/-- No call is as good as a window that is over. -/
theorem entryAllowed_none (times : List ℕ) :
    entryAllowed maxRequests windowMs none times =
      entryAllowed maxRequests windowMs (some ⟨0, 0⟩) times := by
  cases times with
  | nil => rfl
  | cons time times => rw [entryAllowed, entryAllowed, checkEntry_over (Nat.zero_le time)]; rfl

/-- The allowed calls from an entry on: those of its window, and groups after it. -/
theorem exists_groups (entry : IpEntry) (hmax : 1 ≤ maxRequests) (hwindow : 1 ≤ windowMs)
    (hcount : entry.count ≤ maxRequests) (hsorted : times.Pairwise (· ≤ ·)) :
    ∃ own groups, entryAllowed maxRequests windowMs (some entry) times =
        own ++ (groups.map WindowGroup.times).flatten ∧
      own.length + entry.count ≤ maxRequests ∧ (∀ time ∈ own, time < entry.resetAt) ∧
      Grouped maxRequests windowMs groups ∧
      ∀ group ∈ groups, entry.resetAt ≤ group.first := by
  induction times generalizing entry with
  | nil =>
    refine ⟨[], [], rfl, by simpa using hcount, by simp, ⟨by simp, by simp, .nil⟩, by simp⟩
  | cons time times ih =>
    obtain ⟨hfirst, hrest⟩ := List.pairwise_cons.mp hsorted
    rw [entryAllowed]
    by_cases hover : entry.resetAt ≤ time
    · -- the call is the first one of a new group
      obtain ⟨own, groups, hallowed, hlength, hown, hgrouped, hlater⟩ :=
        ih ⟨1, time + windowMs⟩ hmax hrest
      rw [checkEntry_over hover]
      have hgroup : ∀ other ∈ own, time ≤ other ∧ other < time + windowMs := by
        intro other hother
        have hmem :
            other ∈ entryAllowed maxRequests windowMs (some ⟨1, time + windowMs⟩) times := by
          rw [hallowed]
          exact List.mem_append_left _ hother
        exact ⟨hfirst other (mem_of_mem_entryAllowed hmem), hown other hother⟩
      refine ⟨[], ⟨time, own⟩ :: groups, ?_, by simpa using hcount, by simp, ⟨?_, ?_, ?_⟩, ?_⟩
      · rw [if_pos rfl, hallowed]
        rfl
      · rintro group (_ | ⟨_, hmem⟩)
        · exact hlength
        · exact hgrouped.bounded group hmem
      · rintro group (_ | ⟨_, hmem⟩) other hother
        · rcases List.mem_cons.mp hother with rfl | hother
          · exact ⟨le_refl _, Nat.lt_add_of_pos_right hwindow⟩
          · exact hgroup other hother
        · exact hgrouped.within group hmem other hother
      · exact List.pairwise_cons.mpr ⟨hlater, hgrouped.apart⟩
      · rintro group (_ | ⟨_, hmem⟩)
        · exact hover
        · have := hlater group hmem
          dsimp only at this
          omega
    · rw [not_le] at hover
      by_cases hfull : maxRequests ≤ entry.count
      · rw [checkEntry_full hover hfull]
        exact ih entry hcount hrest
      · rw [not_le] at hfull
        obtain ⟨own, groups, hallowed, hlength, hown, hgrouped, hlater⟩ :=
          ih { entry with count := entry.count + 1 } hfull hrest
        rw [checkEntry_counted hover hfull]
        refine ⟨time :: own, groups, ?_, ?_, ?_, hgrouped, hlater⟩
        · rw [if_pos rfl, hallowed]
          rfl
        · rw [List.length_cons]
          dsimp only at hlength
          omega
        · rintro other (_ | ⟨_, hother⟩)
          · exact hover
          · exact hown other hother

theorem Grouped.tail (h : Grouped maxRequests windowMs (group :: groups)) :
    Grouped maxRequests windowMs groups where
  bounded other hother := h.bounded other (List.mem_cons_of_mem _ hother)
  within other hother := h.within other (List.mem_cons_of_mem _ hother)
  apart := (List.pairwise_cons.mp h.apart).2

theorem inWindow_append (times others : List ℕ) : inWindow windowMs start (times ++ others) =
    inWindow windowMs start times + inWindow windowMs start others := by
  rw [inWindow, List.filter_append, List.length_append]
  rfl

theorem Grouped.inWindow_le (h : Grouped maxRequests windowMs groups) (hgroup : group ∈ groups) :
    inWindow windowMs start group.times ≤ maxRequests :=
  (List.length_filter_le _ _).trans (h.bounded group hgroup)

/-- Groups that begin after the interval have no call in it. -/
theorem Grouped.inWindow_after (h : Grouped maxRequests windowMs groups)
    (hafter : ∀ group ∈ groups, start + windowMs < group.first) :
    inWindow windowMs start (groups.map WindowGroup.times).flatten = 0 := by
  rw [inWindow, List.length_eq_zero_iff, List.filter_eq_nil_iff]
  intro time htime
  obtain ⟨_, htimes, hmem⟩ := List.mem_flatten.mp htime
  obtain ⟨group, hgroup, rfl⟩ := List.mem_map.mp htimes
  have hfirst := hafter group hgroup
  have hwithin := (h.within group hgroup time hmem).1
  simp only [Bool.and_eq_true, decide_eq_true_eq, not_and]
  omega

/-- Of groups that begin after the start of the interval only the first one has calls in it. -/
theorem Grouped.inWindow_from (h : Grouped maxRequests windowMs groups)
    (hafter : ∀ group ∈ groups, start < group.first) :
    inWindow windowMs start (groups.map WindowGroup.times).flatten ≤ maxRequests := by
  cases groups with
  | nil => exact Nat.zero_le _
  | cons group groups =>
    have hlater : ∀ other ∈ groups, start + windowMs < other.first := by
      intro other hother
      have hstart := hafter group List.mem_cons_self
      have hapart := (List.pairwise_cons.mp h.apart).1 other hother
      omega
    rw [List.map_cons, List.flatten_cons, inWindow_append, h.tail.inWindow_after hlater]
    exact h.inWindow_le List.mem_cons_self

/-- An interval of the length of the window has calls of two groups at most. -/
theorem Grouped.inWindow_le_two (h : Grouped maxRequests windowMs groups) (start : ℕ) :
    inWindow windowMs start (groups.map WindowGroup.times).flatten ≤ 2 * maxRequests := by
  induction groups with
  | nil => exact Nat.zero_le _
  | cons group groups ih =>
    rw [List.map_cons, List.flatten_cons, inWindow_append]
    by_cases hbefore : group.first + windowMs ≤ start
    · have hnone : inWindow windowMs start group.times = 0 := by
        rw [inWindow, List.length_eq_zero_iff, List.filter_eq_nil_iff]
        intro time htime
        have hwithin := (h.within group List.mem_cons_self time htime).2
        simp only [Bool.and_eq_true, decide_eq_true_eq, not_and]
        omega
      rw [hnone, Nat.zero_add]
      exact ih h.tail
    · have hafter : ∀ other ∈ groups, start < other.first := by
        intro other hother
        have hapart := (List.pairwise_cons.mp h.apart).1 other hother
        omega
      have hown : inWindow windowMs start group.times ≤ maxRequests :=
        h.inWindow_le List.mem_cons_self
      have hothers := h.tail.inWindow_from hafter
      omega

end Groups

section Retry

variable {maxRequests windowMs now later : ℕ} {limiter : RateLimiter} {ip : String}
  {between : List RateCall}

theorem holds_entry (limiter : RateLimiter) (ip : String) (now : ℕ) :
    limiter.Holds ip now limiter.entries[ip]? :=
  fun _ _ => rfl

/-- A refused call finds an entry at the bound. -/
theorem refused_cases {entry : Option IpEntry}
    (h : (checkEntry maxRequests windowMs entry now).1.allowed = false) :
    ∃ full, now < full.resetAt ∧ checkEntry maxRequests windowMs entry now =
      (⟨false, 0, full.resetAt, full.resetAt - now⟩, full) := by
  cases entry with
  | none => cases h
  | some entry =>
    by_cases hover : entry.resetAt ≤ now
    · rw [checkEntry_over hover] at h
      cases h
    · rw [not_le] at hover
      by_cases hfull : maxRequests ≤ entry.count
      · exact ⟨entry, hover, checkEntry_full hover hfull⟩
      · rw [checkEntry_counted hover (not_le.mp hfull)] at h
        cases h

/-- A refused call is allowed after the time it was given, whatever other addresses do. -/
theorem allowed_after_retry
    (hrefused : (limiter.check maxRequests windowMs ip now).1.allowed = false)
    (hordered : Ordered between) (hothers : ∀ call ∈ between, call.ip ≠ ip)
    (hbetween : ∀ call ∈ between, now ≤ call.time ∧ call.time ≤ later)
    (hlater : now + (limiter.check maxRequests windowMs ip now).1.retryAfterMs ≤ later) :
    ((((limiter.check maxRequests windowMs ip now).2.run maxRequests windowMs between).check
      maxRequests windowMs ip later).1.allowed) = true := by
  have hholds := holds_entry limiter ip now
  have hfirst : (limiter.check maxRequests windowMs ip now).1 =
      (checkEntry maxRequests windowMs limiter.entries[ip]? now).1 := by
    rw [check_fst, hholds.checkEntry_eq]
  rw [hfirst] at hrefused hlater
  obtain ⟨full, hlive, hcheck⟩ := refused_cases hrefused
  have hself := hholds.check_self maxRequests windowMs
  rw [hcheck] at hself hlater
  have hnow : now ≤ later := (Nat.le_add_right _ _).trans hlater
  have hrun := hself.run_others maxRequests windowMs hordered
    (fun call hcall => (hbetween call hcall).1) hothers hnow
    fun call hcall => (hbetween call hcall).2
  have hover : full.resetAt ≤ later := by
    dsimp only at hlater
    omega
  rw [check_fst, hrun.checkEntry_eq, checkEntry_over hover]

end Retry

/-- The limiter binds an address: its allowed calls are in groups, and an interval of the length of
the window has at most twice the allowed calls. Other addresses have no influence. A refused call is
allowed after the time it was given. -/
theorem rate_limiter_binds {maxRequests windowMs : ℕ} (hmax : 1 ≤ maxRequests)
    (hwindow : 1 ≤ windowMs) {calls : List RateCall} (hordered : Ordered calls) (ip : String) :
    (∃ groups, Grouped maxRequests windowMs groups ∧
      RateLimiter.new.allowedOf maxRequests windowMs ip calls =
        (groups.map WindowGroup.times).flatten) ∧
    (∀ start, inWindow windowMs start
      (RateLimiter.new.allowedOf maxRequests windowMs ip calls) ≤ 2 * maxRequests) ∧
    RateLimiter.new.decisionsOf maxRequests windowMs ip calls =
      RateLimiter.new.decisions maxRequests windowMs (calls.filter (·.ip = ip)) ∧
    ∀ before now between later after,
      calls = before ++ ⟨ip, now⟩ :: (between ++ ⟨ip, later⟩ :: after) →
      (∀ call ∈ between, call.ip ≠ ip) →
      let reached := RateLimiter.new.run maxRequests windowMs before
      let refused := reached.check maxRequests windowMs ip now
      refused.1.allowed = false → now + refused.1.retryAfterMs ≤ later →
      ((refused.2.run maxRequests windowMs between).check maxRequests windowMs ip later).1.allowed =
        true := by
  have hsorted : (timesOf ip calls).Pairwise (· ≤ ·) :=
    List.pairwise_map.mpr (hordered.filter _)
  obtain ⟨own, groups, hallowed, hlength, hown, hgrouped, -⟩ :=
    exists_groups ⟨0, 0⟩ hmax hwindow (Nat.zero_le _) hsorted
  have hempty : own = [] :=
    List.eq_nil_iff_forall_not_mem.mpr fun time htime => Nat.not_lt_zero _ (hown time htime)
  have htimes : RateLimiter.new.allowedOf maxRequests windowMs ip calls =
      (groups.map WindowGroup.times).flatten := by
    have hown := (decisionsOf_eq maxRequests windowMs (holds_new ip 0) hordered
      fun _ _ => Nat.zero_le _).2
    rw [hown, entryAllowed_none, hallowed, hempty, List.nil_append]
  refine ⟨⟨groups, hgrouped, htimes⟩, ?_, decisionsOf_eq_decisions_filter ip hordered, ?_⟩
  · intro start
    rw [htimes]
    exact hgrouped.inWindow_le_two start
  · rintro before now between later after rfl hothers reached refused hrefused hlater
    obtain ⟨hnow, hrest⟩ := List.pairwise_cons.mp (List.pairwise_append.mp hordered).2.1
    obtain ⟨hbetween, -, hcross⟩ := List.pairwise_append.mp hrest
    refine allowed_after_retry hrefused hbetween hothers ?_ hlater
    intro call hcall
    exact ⟨hnow call (List.mem_append_left _ hcall), hcross call hcall _ List.mem_cons_self⟩

/-- Calls of two addresses in a window of ten. -/
def mixedCalls : List RateCall := [⟨"a", 0⟩, ⟨"b", 1⟩, ⟨"a", 2⟩, ⟨"a", 3⟩, ⟨"b", 4⟩, ⟨"a", 10⟩]

/-- Two calls of the address are allowed, the third one is refused and allowed at the end. -/
theorem mixedCalls_bound :
    ((∃ groups, Grouped 2 10 groups ∧
      RateLimiter.new.allowedOf 2 10 "a" mixedCalls = (groups.map WindowGroup.times).flatten) ∧
    inWindow 10 0 (RateLimiter.new.allowedOf 2 10 "a" mixedCalls) ≤ 2 * 2) ∧
    ((((RateLimiter.new.run 2 10 [⟨"a", 0⟩, ⟨"b", 1⟩, ⟨"a", 2⟩]).check 2 10 "a" 3).2.run 2 10
      [⟨"b", 4⟩]).check 2 10 "a" 10).1.allowed = true := by
  have hbound := rate_limiter_binds (by decide : 1 ≤ 2) (by decide : 1 ≤ 10)
    (by simp [Ordered, mixedCalls] : Ordered mixedCalls) "a"
  refine ⟨⟨hbound.1, hbound.2.1 0⟩, ?_⟩
  exact hbound.2.2.2 [⟨"a", 0⟩, ⟨"b", 1⟩, ⟨"a", 2⟩] 3 [⟨"b", 4⟩] 10 [] rfl (by simp)
    (by with_unfolding_all rfl) (by with_unfolding_all decide)

end Automaton.RpcGateway

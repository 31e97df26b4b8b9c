import Automaton.Library.Ecma
import Automaton.Library.Trail

/-!
# Lifetime earnings

The indexer adds to the lifetime earnings of an automaton whenever its balance is above the one of
the newest sample of its history. The history is thinned and cut by age, so that the newest sample
need not be the one of the last poll: an increase is counted again after a poll that was not
sampled, and is not counted after the history was cut.
-/

namespace Automaton.Indexer

/-- The balance of `RuntimeFinancialRead` in USDC. -/
structure RuntimeFinancialRead where
  usdcBalanceRawHex : Option String
  deriving DecidableEq, Repr

/-- A sample of the history, with the balance in USDC. -/
structure MetabolismHistoryPoint where
  capturedAt : ℤ
  usdcBalanceRaw : Option String
  deriving DecidableEq, Repr

/-- The earnings and the history of `AutomatonMetabolism`. The earnings are printed in base ten. -/
structure AutomatonMetabolism where
  lifetimeEarningsUsdcRaw : ℤ
  history : List MetabolismHistoryPoint
  deriving DecidableEq, Repr

/-- The balance and the metabolism of `AutomatonDetail`. -/
structure AutomatonDetail where
  usdcBalanceRaw : Option String
  metabolism : Option AutomatonMetabolism
  deriving DecidableEq, Repr

/-- `defaultDetail`. -/
def defaultDetail : AutomatonDetail := ⟨none, some ⟨0, []⟩⟩

/-- `toOptionalString`. -/
def toOptionalString (value : Option String) : Option String :=
  (value.map Ecma.trim).filter (· ≠ "")

/-- `parseRawBalance`. -/
def parseRawBalance (value : Option String) : ℤ := (value.bind Ecma.bigInt).getD 0

/-- `positiveUsdcInflowRaw`. -/
def positiveUsdcInflowRaw (previous current : Option String) : ℤ :=
  let delta := parseRawBalance current - parseRawBalance previous
  if 0 < delta then delta else 0

/-- The least time between samples, a second. -/
def sampleIntervalMs : ℤ := 1000

/-- The age after which samples are cut, seven days. -/
def historyRetentionMs : ℤ := 7 * 24 * 60 * 60 * 1000

/-- The samples that are kept: none that is too old, and the last one of those of one time. -/
def keptPoints (capturedAt : ℤ) : List MetabolismHistoryPoint → List MetabolismHistoryPoint
  | [] => []
  | point :: points =>
    if capturedAt - point.capturedAt ≤ historyRetentionMs ∧
        points.head?.all (point.capturedAt ≠ ·.capturedAt) then
      point :: keptPoints capturedAt points
    else keptPoints capturedAt points

/-- `normalizeAutomatonDetail`, of the balance, the earnings and the history. -/
def normalizeAutomatonDetail (existingDetail : Option AutomatonDetail)
    (runtime : Option RuntimeFinancialRead) (now : ℤ) : AutomatonDetail :=
  let base := existingDetail.getD defaultDetail
  let walletUsdcBalance :=
    toOptionalString (runtime.bind (·.usdcBalanceRawHex)) <|> base.usdcBalanceRaw
  let capturedAt := now
  let priorHistory := (base.metabolism.map (·.history)).getD []
  let shouldAppendRuntimeSample := runtime.isSome && priorHistory.getLast?.all fun last =>
    sampleIntervalMs ≤ capturedAt - last.capturedAt
  let previousUsdc := (priorHistory.getLast?.bind (·.usdcBalanceRaw)) <|> walletUsdcBalance
  let earned := (base.metabolism.map (·.lifetimeEarningsUsdcRaw)).getD 0
  let lifetimeEarningsUsdcRaw :=
    if runtime.isNone then earned
    else earned + positiveUsdcInflowRaw previousUsdc walletUsdcBalance
  let nextHistory :=
    if shouldAppendRuntimeSample then priorHistory ++ [⟨capturedAt, walletUsdcBalance⟩]
    else priorHistory
  let history := Trail.keepNewest 96 (keptPoints capturedAt nextHistory)
  ⟨walletUsdcBalance, some ⟨lifetimeEarningsUsdcRaw, history⟩⟩

/-- A poll: of the identity, or of the runtime with what was read. -/
structure DetailPoll where
  now : ℤ
  runtime : Option RuntimeFinancialRead
  deriving DecidableEq, Repr

/-- The stored detail after polls. -/
def detailAfter (polls : List DetailPoll) : Option AutomatonDetail :=
  polls.foldl (fun detail poll => some (normalizeAutomatonDetail detail poll.runtime poll.now)) none

/-- The earnings after polls. -/
def earningsAfter (polls : List DetailPoll) : ℤ :=
  ((detailAfter polls).bind (·.metabolism)).elim 0 (·.lifetimeEarningsUsdcRaw)

/-- The history after polls. -/
def historyAfter (polls : List DetailPoll) : List MetabolismHistoryPoint :=
  ((detailAfter polls).bind (·.metabolism)).elim [] (·.history)

section Polls

/-- What polls found: the balance that was reported last, the balances at the polls of the runtime,
and the newest sample that is left. -/
structure Polled where
  reported : Option String
  balances : List ℤ
  newest : Option MetabolismHistoryPoint

/-- The balance that is reported last after a poll. -/
def Polled.reportedAt (seen : Polled) (poll : DetailPoll) : Option String :=
  toOptionalString (poll.runtime.bind (·.usdcBalanceRawHex)) <|> seen.reported

/-- A poll of the runtime is sampled unless the newest sample is less than a second older. A sample
is gone after a poll of more than seven days later. -/
def Polled.next (seen : Polled) (poll : DetailPoll) : Polled :=
  let reported := seen.reportedAt poll
  let sampled := poll.runtime.isSome && seen.newest.all fun sample =>
    sampleIntervalMs ≤ poll.now - sample.capturedAt
  { reported := reported
    balances :=
      if poll.runtime.isSome then seen.balances ++ [parseRawBalance reported] else seen.balances
    newest :=
      if sampled then some ⟨poll.now, reported⟩
      else seen.newest.filter fun sample => poll.now - sample.capturedAt ≤ historyRetentionMs }

/-- What polls found. -/
def polled (polls : List DetailPoll) : Polled := polls.foldl Polled.next ⟨none, [], none⟩

/-- The sum of what consecutive balances increase by. -/
def increases : List ℤ → ℤ
  | [] => 0
  | [_] => 0
  | previous :: balance :: balances =>
    max 0 (balance - previous) + increases (balance :: balances)

/-- The balance that a poll of the runtime is compared with: that of the newest sample, or its own
if there is none. -/
def Polled.compared (seen : Polled) (poll : DetailPoll) : ℤ :=
  parseRawBalance ((seen.newest.bind (·.usdcBalanceRaw)) <|> seen.reportedAt poll)

/-- A poll of the runtime is compared with the balance at the one before it, or its own balance is
above neither of the two. -/
def CountedOnce (before : List DetailPoll) (poll : DetailPoll) : Prop :=
  let seen := polled before
  let balance := parseRawBalance (seen.reportedAt poll)
  poll.runtime.isSome → ∀ previous ∈ seen.balances.getLast?,
    seen.compared poll = previous ∨ balance ≤ seen.compared poll ∧ balance ≤ previous

/-- The earnings are what the balances increased by, and the history is ordered, short and
recent. -/
structure EarningsCorrect (polls : List DetailPoll) : Prop where
  earnings : earningsAfter polls = increases (polled polls).balances
  ordered : (historyAfter polls).Pairwise fun earlier later => earlier.capturedAt < later.capturedAt
  short : (historyAfter polls).length ≤ 96
  recent : ∀ last ∈ polls.getLast?, ∀ point ∈ historyAfter polls,
    last.now - point.capturedAt ≤ 7 * 24 * 60 * 60 * 1000

end Polls

section History

variable {capturedAt : ℤ} {points : List MetabolismHistoryPoint}

/-- In order, a sample is kept unless it is too old. -/
theorem keptPoints_eq_filter
    (hordered : points.Pairwise fun earlier later => earlier.capturedAt < later.capturedAt) :
    keptPoints capturedAt points =
      points.filter fun point => capturedAt - point.capturedAt ≤ historyRetentionMs := by
  induction points with
  | nil => rfl
  | cons point points ih =>
    obtain ⟨hfirst, hrest⟩ := List.pairwise_cons.mp hordered
    have hnext : points.head?.all (point.capturedAt ≠ ·.capturedAt) = true := by
      rw [Option.all_eq_true]
      intro next hnext
      exact decide_eq_true (hfirst next (List.mem_of_head? hnext)).ne
    rw [keptPoints, ih hrest, List.filter_cons]
    simp only [hnext, and_true, decide_eq_true_eq]

/-- The newest sample is the last one to go. -/
theorem getLast?_filter_recent
    (hordered : points.Pairwise fun earlier later => earlier.capturedAt < later.capturedAt) :
    (points.filter fun point => capturedAt - point.capturedAt ≤ historyRetentionMs).getLast? =
      points.getLast?.filter fun point => capturedAt - point.capturedAt ≤ historyRetentionMs := by
  induction points using List.reverseRecOn with
  | nil => rfl
  | append_singleton points last ih =>
    obtain ⟨hpoints, -, hlast⟩ := List.pairwise_append.mp hordered
    rw [List.filter_append, List.getLast?_concat]
    by_cases hrecent : capturedAt - last.capturedAt ≤ historyRetentionMs
    · rw [List.filter_cons_of_pos (by simpa using hrecent), List.filter_nil, List.getLast?_concat,
        Option.filter_some, if_pos (by simpa using hrecent)]
    · have hnone : points.filter (fun point =>
          decide (capturedAt - point.capturedAt ≤ historyRetentionMs)) = [] := by
        refine List.filter_eq_nil_iff.mpr fun point hpoint => ?_
        have hlt := hlast point hpoint last List.mem_cons_self
        simp only [decide_eq_true_eq]
        omega
      rw [hnone, List.nil_append, List.filter_cons_of_neg (by simpa using hrecent),
        List.filter_nil, Option.filter_some, if_neg (by simpa using hrecent)]
      rfl

/-- No sample is newer than the last one. -/
theorem le_last {point last : MetabolismHistoryPoint}
    (hordered : points.Pairwise fun earlier later => earlier.capturedAt < later.capturedAt)
    (hpoint : point ∈ points) (hlast : points.getLast? = some last) :
    point.capturedAt ≤ last.capturedAt := by
  obtain ⟨earlier, rfl⟩ := List.getLast?_eq_some_iff.mp hlast
  rcases List.mem_append.mp hpoint with hearlier | hsame
  · exact ((List.pairwise_append.mp hordered).2.2 point hearlier last List.mem_cons_self).le
  · rw [List.mem_singleton.mp hsame]

end History

section Tracking

variable {polls : List DetailPoll} {poll : DetailPoll}

theorem detailAfter_concat : detailAfter (polls ++ [poll]) =
    some (normalizeAutomatonDetail (detailAfter polls) poll.runtime poll.now) := by
  rw [detailAfter, List.foldl_append]
  rfl

theorem polled_concat : polled (polls ++ [poll]) = (polled polls).next poll := by
  rw [polled, List.foldl_append]
  rfl

/-- The detail that a poll starts from. -/
def baseAfter (polls : List DetailPoll) : AutomatonDetail :=
  (detailAfter polls).getD defaultDetail

theorem historyAfter_eq :
    ((baseAfter polls).metabolism.map (·.history)).getD [] = historyAfter polls := by
  unfold baseAfter historyAfter
  cases detailAfter polls with
  | none => rfl
  | some detail => cases h : detail.metabolism <;> simp [h]

theorem earningsAfter_eq :
    ((baseAfter polls).metabolism.map (·.lifetimeEarningsUsdcRaw)).getD 0 =
      earningsAfter polls := by
  unfold baseAfter earningsAfter
  cases detailAfter polls with
  | none => rfl
  | some detail => cases h : detail.metabolism <;> simp [h]

/-- The stored detail has the balance that was reported last, and the newest sample. -/
structure Tracks (polls : List DetailPoll) : Prop where
  reported : (baseAfter polls).usdcBalanceRaw = (polled polls).reported
  newest : (historyAfter polls).getLast? = (polled polls).newest
  ordered : (historyAfter polls).Pairwise fun earlier later => earlier.capturedAt < later.capturedAt
  short : (historyAfter polls).length ≤ 96
  recent : ∀ last ∈ polls.getLast?, ∀ point ∈ historyAfter polls,
    last.now - point.capturedAt ≤ 7 * 24 * 60 * 60 * 1000
  unsampled : (polled polls).balances = [] → (polled polls).newest = none

/-- The samples before the old ones are cut. -/
def sampledHistory (polls : List DetailPoll) (poll : DetailPoll) : List MetabolismHistoryPoint :=
  if poll.runtime.isSome && (historyAfter polls).getLast?.all fun last =>
      sampleIntervalMs ≤ poll.now - last.capturedAt then
    historyAfter polls ++ [⟨poll.now, (polled polls).reportedAt poll⟩]
  else historyAfter polls

theorem Tracks.reportedAt (h : Tracks polls) :
    (toOptionalString (poll.runtime.bind (·.usdcBalanceRawHex)) <|>
      (baseAfter polls).usdcBalanceRaw) = (polled polls).reportedAt poll := by
  rw [h.reported]
  rfl

theorem Tracks.historyAfter_concat (h : Tracks polls) :
    historyAfter (polls ++ [poll]) =
      Trail.keepNewest 96 (keptPoints poll.now (sampledHistory polls poll)) := by
  have hdetail : historyAfter (polls ++ [poll]) = ((normalizeAutomatonDetail (detailAfter polls)
      poll.runtime poll.now).metabolism).elim [] (·.history) := by
    rw [historyAfter, detailAfter_concat]
    rfl
  rw [hdetail, normalizeAutomatonDetail]
  dsimp only
  rw [Option.elim, ← baseAfter, h.reportedAt, historyAfter_eq]
  rfl

theorem Tracks.earningsAfter_concat (h : Tracks polls) :
    earningsAfter (polls ++ [poll]) =
      if poll.runtime.isNone then earningsAfter polls
      else earningsAfter polls + positiveUsdcInflowRaw
        (((polled polls).newest.bind (·.usdcBalanceRaw)) <|> (polled polls).reportedAt poll)
        ((polled polls).reportedAt poll) := by
  have hdetail : earningsAfter (polls ++ [poll]) = ((normalizeAutomatonDetail (detailAfter polls)
      poll.runtime poll.now).metabolism).elim 0 (·.lifetimeEarningsUsdcRaw) := by
    rw [earningsAfter, detailAfter_concat]
    rfl
  rw [hdetail, normalizeAutomatonDetail]
  dsimp only
  rw [Option.elim, ← baseAfter, h.reportedAt, historyAfter_eq, earningsAfter_eq, h.newest]

theorem Tracks.sampledHistory_ordered (h : Tracks polls) :
    (sampledHistory polls poll).Pairwise fun earlier later =>
      earlier.capturedAt < later.capturedAt := by
  unfold sampledHistory
  split
  · next hsampled =>
    obtain ⟨-, hinterval⟩ := Bool.and_eq_true_iff.mp hsampled
    refine List.pairwise_append.mpr ⟨h.ordered, List.pairwise_singleton _ _, ?_⟩
    intro point hpoint sample hsample
    obtain rfl := List.mem_singleton.mp hsample
    have hlast := List.getLast?_eq_some_getLast (List.ne_nil_of_mem hpoint)
    set last := (historyAfter polls).getLast (List.ne_nil_of_mem hpoint)
    have hle := le_last h.ordered hpoint hlast
    have hlater : sampleIntervalMs ≤ poll.now - last.capturedAt := by
      rw [hlast] at hinterval
      exact of_decide_eq_true hinterval
    unfold sampleIntervalMs at hlater
    dsimp only
    omega
  · exact h.ordered

/-- The newest sample before the old ones are cut. -/
theorem Tracks.getLast?_sampledHistory (h : Tracks polls) :
    (sampledHistory polls poll).getLast? =
      if poll.runtime.isSome && (polled polls).newest.all fun sample =>
          sampleIntervalMs ≤ poll.now - sample.capturedAt then
        some ⟨poll.now, (polled polls).reportedAt poll⟩
      else (polled polls).newest := by
  unfold sampledHistory
  rw [h.newest]
  split
  · exact List.getLast?_concat
  · exact h.newest

theorem Tracks.historyAfter_concat_filter (h : Tracks polls) :
    historyAfter (polls ++ [poll]) = Trail.keepNewest 96 ((sampledHistory polls poll).filter
      fun point => poll.now - point.capturedAt ≤ historyRetentionMs) := by
  rw [h.historyAfter_concat, keptPoints_eq_filter h.sampledHistory_ordered]

/-- A poll keeps what the stored detail has. -/
theorem Tracks.concat (h : Tracks polls) : Tracks (polls ++ [poll]) where
  reported := by
    rw [baseAfter, detailAfter_concat, polled_concat, Option.getD_some]
    exact h.reportedAt
  newest := by
    rw [h.historyAfter_concat_filter, Trail.getLast?_keepNewest (by decide),
      getLast?_filter_recent h.sampledHistory_ordered, h.getLast?_sampledHistory, polled_concat,
      Polled.next]
    dsimp only
    split
    · have hnow : decide (poll.now - poll.now ≤ historyRetentionMs) = true := by
        rw [sub_self]
        decide
      rw [Option.filter_some, if_pos hnow]
    · rfl
  ordered := by
    rw [h.historyAfter_concat_filter]
    exact (h.sampledHistory_ordered.filter _).sublist Trail.keepNewest_suffix.sublist
  short := by
    rw [h.historyAfter_concat_filter]
    exact Trail.length_keepNewest
  recent := by
    intro last hlast point hpoint
    rw [List.getLast?_concat] at hlast
    obtain rfl := Option.some.inj hlast
    rw [h.historyAfter_concat_filter] at hpoint
    have hkept := List.mem_filter.mp (Trail.keepNewest_suffix.mem hpoint)
    exact of_decide_eq_true hkept.2
  unsampled := by
    rw [polled_concat, Polled.next]
    dsimp only
    by_cases hruntime : poll.runtime.isSome = true
    · rw [if_pos hruntime]
      intro hempty
      exact absurd hempty (List.append_ne_nil_of_right_ne_nil _ (List.cons_ne_nil _ _))
    · rw [if_neg hruntime]
      intro hempty
      rw [h.unsampled hempty, Bool.not_eq_true] at *
      rw [hruntime]
      rfl

theorem tracks (polls : List DetailPoll) : Tracks polls := by
  induction polls using List.reverseRecOn with
  | nil =>
    exact {
      reported := rfl
      newest := rfl
      ordered := .nil
      short := Nat.zero_le _
      recent := fun _ _ _ hpoint => absurd hpoint List.not_mem_nil
      unsampled := fun _ => rfl }
  | append_singleton polls poll ih => exact ih.concat

end Tracking

section Earnings

variable {polls : List DetailPoll} {poll : DetailPoll}

/-- A balance after others adds what it is above the last one. -/
theorem increases_concat (balances : List ℤ) (balance : ℤ) :
    increases (balances ++ [balance]) =
      increases balances + balances.getLast?.elim 0 fun previous => max 0 (balance - previous) := by
  induction balances with
  | nil => rfl
  | cons first balances ih =>
    cases balances with
    | nil => simp [increases]
    | cons second balances =>
      rw [List.cons_append, List.cons_append, increases, ← List.cons_append, ih, increases,
        List.getLast?_cons_cons]
      omega

theorem positiveUsdcInflowRaw_eq (previous current : Option String) :
    positiveUsdcInflowRaw previous current =
      max 0 (parseRawBalance current - parseRawBalance previous) := by
  unfold positiveUsdcInflowRaw
  dsimp only
  omega

/-- Two balances are exceeded by as much exactly if they are the same or neither is exceeded. -/
theorem max_sub_eq_iff {balance compared previous : ℤ} :
    max 0 (balance - compared) = max 0 (balance - previous) ↔
      compared = previous ∨ balance ≤ compared ∧ balance ≤ previous := by
  omega

/-- After a poll the earnings are right if they were and the poll is counted once. -/
theorem earnings_concat_iff (h : earningsAfter polls = increases (polled polls).balances) :
    earningsAfter (polls ++ [poll]) = increases (polled (polls ++ [poll])).balances ↔
      CountedOnce polls poll := by
  rw [(tracks polls).earningsAfter_concat, polled_concat, Polled.next, CountedOnce, h]
  dsimp only
  cases hruntime : poll.runtime with
  | none => simp
  | some runtime =>
    simp only [Option.isNone_some, Option.isSome_some, Bool.false_eq_true, if_false, if_true,
      true_implies]
    rw [increases_concat, positiveUsdcInflowRaw_eq, add_right_inj, ← Polled.compared]
    cases hlast : (polled polls).balances.getLast? with
    | none =>
      -- before the first poll of the runtime there is no sample
      have hnewest := (tracks polls).unsampled (List.getLast?_eq_none_iff.mp hlast)
      have hcompared : (polled polls).compared poll =
          parseRawBalance ((polled polls).reportedAt poll) := by
        rw [Polled.compared, hnewest]
        rfl
      rw [hcompared, sub_self]
      simp
    | some previous =>
      rw [Option.elim, max_sub_eq_iff]
      simp

theorem earningsCorrect_iff : EarningsCorrect polls ↔
    earningsAfter polls = increases (polled polls).balances := by
  refine ⟨EarningsCorrect.earnings, fun h => ?_⟩
  have htracks := tracks polls
  exact ⟨h, htracks.ordered, htracks.short, htracks.recent⟩

/-- The earnings are right all along exactly if each poll of the runtime is counted once. -/
theorem earningsCorrect_all_iff (polls : List DetailPoll) :
    (∀ front, front <+: polls → EarningsCorrect front) ↔
      ∀ before poll after, polls = before ++ poll :: after → CountedOnce before poll := by
  induction polls using List.reverseRecOn with
  | nil =>
    refine iff_of_true ?_ ?_
    · intro front hfront
      rw [List.prefix_nil.mp hfront]
      exact earningsCorrect_iff.mpr rfl
    · intro before poll after hsplit
      exact absurd hsplit.symm (List.append_ne_nil_of_right_ne_nil _ (List.cons_ne_nil _ _))
  | append_singleton polls poll ih =>
    constructor
    · intro hcorrect before other after hsplit
      have hpolls := ih.mp fun front hfront =>
        hcorrect front (hfront.trans (List.prefix_append polls [poll]))
      rcases List.eq_nil_or_concat after with rfl | ⟨after, last, rfl⟩
      · obtain ⟨rfl, hlast⟩ := List.append_inj' hsplit rfl
        obtain rfl := List.head_eq_of_cons_eq hlast
        have hbefore := hcorrect polls (List.prefix_append polls [poll])
        exact (earnings_concat_iff hbefore.earnings).mp
          (hcorrect _ (List.prefix_refl _)).earnings
      · rw [List.concat_eq_append, ← List.cons_append, ← List.append_assoc] at hsplit
        exact hpolls before other after (List.append_inj' hsplit rfl).1
    · intro hcounted front hfront
      have hpolls := ih.mpr fun before other after hsplit =>
        hcounted before other (after ++ [poll]) (by rw [hsplit]; simp)
      rcases List.prefix_concat_iff.mp hfront with rfl | hfront
      · have hbefore := hpolls polls (List.prefix_refl polls)
        exact earningsCorrect_iff.mpr ((earnings_concat_iff hbefore.earnings).mpr
          (hcounted polls poll [] rfl))
      · exact hpolls front hfront

/-- Polls of the runtime of which the second one comes too early for a sample. -/
def earlyPolls : List DetailPoll :=
  [⟨0, some ⟨some "0x0"⟩⟩, ⟨500, some ⟨some "0x64"⟩⟩, ⟨1200, some ⟨some "0x64"⟩⟩]

/-- The increase at the second poll is counted again at the third one. -/
theorem earlyPolls_counted_twice : ¬ EarningsCorrect earlyPolls := by
  intro h
  have hearnings : earningsAfter earlyPolls = 200 := by decide
  have hincreases : increases (polled earlyPolls).balances = 100 := by decide
  rw [h.earnings, hincreases] at hearnings
  exact absurd hearnings (by decide)

end Earnings

end Automaton.Indexer

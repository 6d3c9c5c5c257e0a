import RemoteShell.Proofs.Session.Verdict

/-!
# Giving a shell up

The watchdog of a session probes the shell again and again. It gives the session up once as
many probes in a row have failed as the options say, however long each of them has taken, and
never before (`Judges`). It sends one probe at a time, and none before its turn in the
schedule has come (`Paces`).

A watchdog that has to end need not look at that first: it may still send a probe that is
due, and judge one that has returned (`of_late_turn`).
-/

namespace RemoteShell

/-- When a watchdog sends the next probe at the earliest. -/
def Watchdog.due? : Watchdog → Option Nat
  | waiting due _ | probing _ due _ => some due
  | idle | finished => none

/-- Tells whether a probe is under way. -/
def Watchdog.isProbing : Watchdog → Bool
  | probing .. => true
  | idle | waiting .. | finished => false

namespace Session

variable {s s' t : Session} {move : Move} {moves : List Move} {past : List Visit}
  {error : ShellFault}

/-! ## Failures in a row -/

/-- How the probes have gone that have returned. -/
def outcomes (visits : List Visit) : List Probe := visits.filterMap probed?

/-- The last probes have failed, as many as given. -/
def LastFailed (count : Nat) (outcomes : List Probe) : Prop :=
  ∃ last, last <:+ outcomes ∧ last.length = count ∧ ∀ outcome ∈ last, outcome.isFailed = true

theorem lastFailed_iff {count : Nat} :
    LastFailed count (outcomes past) ↔ count ≤ failuresInRow past := by
  have hrow : failuresInRow past = ((outcomes past).reverse.takeWhile Probe.isFailed).length := rfl
  rw [hrow]
  constructor
  · rintro ⟨last, ⟨earlier, hlast⟩, rfl, hfailed⟩
    have hall : ∀ outcome ∈ last.reverse, outcome.isFailed = true := by simpa using hfailed
    rw [← hlast, List.reverse_append, List.takeWhile_append_of_pos hall, List.length_append,
      List.length_reverse]
    exact Nat.le_add_right _ _
  · intro hcount
    -- The last outcomes come first in the reversed list.
    refine ⟨((outcomes past).reverse.takeWhile Probe.isFailed |>.take count).reverse, ?_, ?_, ?_⟩
    · have hprefix := (List.take_prefix count _).trans
        (List.takeWhile_prefix Probe.isFailed (l := (outcomes past).reverse))
      simpa using List.reverse_suffix.mpr hprefix
    · rw [List.length_reverse, List.length_take]
      exact Nat.min_eq_left hcount
    · intro outcome houtcome
      rw [List.mem_reverse] at houtcome
      exact List.all_eq_true.mp List.all_takeWhile outcome (List.mem_of_mem_take houtcome)

theorem outcomes_append (past : List Visit) (visit : Visit) :
    outcomes (past ++ [visit]) = outcomes past ++ (probed? visit).toList := by
  rw [outcomes, List.filterMap_append]
  cases hprobed : probed? visit <;> simp [outcomes, hprobed]

theorem outcomes_append_of_none (h : probed? (s, move) = none) :
    outcomes (past ++ [(s, move)]) = outcomes past := by
  rw [outcomes_append, h, Option.toList_none, List.append_nil]

/-! ## Giving up -/

theorem arrivalHalt_ne_unresponsive (arrival : Arrival) :
    arrival.halt? ≠ some (.failed (.unresponsive error)) := by
  cases arrival <;> simp [Arrival.halt?]

theorem exitHalt_ne_unresponsive (exit : Except ShellFault Int) :
    exitHalt exit ≠ .failed (.unresponsive error) := by
  unfold exitHalt
  split <;> simp

/-- A halt is for want of an answer if and only if it comes with a failed probe, and as many
have failed in a row then as the options say. -/
theorem halt?_eq_unresponsive_iff :
    halt? past (s, move) = some (.failed (.unresponsive error)) ↔
      probed? (s, move) = some (.failed error) ∧ failuresInRow past + 1 = s.maxFailures := by
  cases move with
  | turn task =>
    cases task with
    | relay =>
      simp [halt?, probed?, Option.bind_eq_some_iff, arrivalHalt_ne_unresponsive]
    | pump => simp [halt?, probed?]
    | watchdog =>
      cases hprobed : probed? (s, .turn .watchdog) with
      | none => simp [halt?, hprobed]
      | some outcome => cases outcome <;> simp [halt?, hprobed, maxFailures, and_comm]
    | exitWatch => simp [halt?, probed?, exitHalt_ne_unresponsive]
    | stop | closer | teardown | runner => simp [halt?, probed?]
  | act | pass => simp [halt?, probed?]

/-- The watchdog has given the session up if and only if the last probes have failed, as many
as the options say, and this is the first time that they have. -/
structure Judges (past : List Visit) (s : Session) : Prop where
  givesUp : ∀ error, .failed (.unresponsive error) ∈ halts past ↔
    LastFailed s.maxFailures (outcomes past) ∧ (outcomes past).getLast? = some (.failed error)
  before : ∀ earlier later, outcomes past = earlier ++ later → later ≠ [] →
    ¬ LastFailed s.maxFailures earlier

theorem maxFailures_of_change (h : Change s move s') : s'.maxFailures = s.maxFailures := by
  rw [maxFailures, options_of_change h, maxFailures]

theorem move_of_probed? {outcome : Probe} (h : probed? (s, move) = some outcome) :
    move = .turn .watchdog := by
  unfold probed? at h
  split at h
  · rename_i heq
    cases heq
    rfl
  · cases h

/-- A halt adds to those before it. -/
theorem mem_halts_append_iff {visit : Visit} {reason : StopReason} :
    reason ∈ halts (past ++ [visit]) ↔ reason ∈ halts past ∨ halt? past visit = some reason := by
  rw [halts_append, List.mem_append, Option.mem_toList]

/-- A probe that returns is judged at once. -/
theorem judges_of_probed {outcome : Probe} (h : Change s move s') (hcounts : Counts past s)
    (hprobed : probed? (s, move) = some outcome) (hs : Judges past s) :
    Judges (past ++ [(s, move)]) s' := by
  obtain rfl := move_of_probed? hprobed
  obtain ⟨-, -, due, failures, hdog⟩ := of_probed?_eq_some hprobed
  -- The count has not reached its bound, so the watchdog has not given up so far.
  have hfew : failuresInRow past < s.maxFailures := by
    obtain ⟨hcount, hlt⟩ := hcounts.failures failures (by rw [hdog]; rfl)
    exact hcount ▸ hlt
  have hnone (error : ShellFault) : .failed (.unresponsive error) ∉ halts past := by
    rw [hs.givesUp, lastFailed_iff]
    omega
  have hrow : failuresInRow (past ++ [(s, .turn .watchdog)]) =
      if outcome.isFailed then failuresInRow past + 1 else 0 := by
    rw [failuresInRow_append, hprobed]
  refine ⟨fun error => ?_, fun earlier later houtcomes hlater => ?_⟩
  · rw [mem_halts_append_iff, or_iff_right (hnone error), halt?_eq_unresponsive_iff, hprobed,
      lastFailed_iff, hrow, maxFailures_of_change h, outcomes_append, hprobed]
    cases outcome with
    | failed reason =>
      simp only [Probe.isFailed, if_true, Option.toList_some, List.getLast?_concat]
      constructor <;> rintro ⟨hfirst, hsecond⟩
      · exact ⟨by omega, hfirst⟩
      · exact ⟨hsecond, by omega⟩
    | answered | hanging =>
      simp [Probe.isFailed]
  · rw [maxFailures_of_change h]
    rw [outcomes_append, hprobed, Option.toList_some] at houtcomes
    obtain ⟨later, last, rfl⟩ := (List.eq_nil_or_concat later).resolve_left hlater
    rw [List.concat_eq_append, ← List.append_assoc] at houtcomes
    have hpast : outcomes past = earlier ++ later := List.append_inj_left' houtcomes rfl
    -- Of the outcomes before this one, either all come earlier or some come later.
    by_cases hend : later = []
    · rw [hend, List.append_nil] at hpast
      rw [← hpast, lastFailed_iff]
      exact Nat.not_le_of_lt hfew
    · exact hs.before earlier later hpast hend

theorem judges_of_change (h : Change s move s') (hcounts : Counts past s) (hs : Judges past s) :
    Judges (past ++ [(s, move)]) s' := by
  cases hprobed : probed? (s, move) with
  | some outcome => exact judges_of_probed h hcounts hprobed hs
  | none =>
    have houtcomes : outcomes (past ++ [(s, move)]) = outcomes past :=
      outcomes_append_of_none hprobed
    refine ⟨fun error => ?_, ?_⟩
    · have hother : halt? past (s, move) ≠ some (.failed (.unresponsive error)) := by
        rw [Ne, halt?_eq_unresponsive_iff, hprobed]
        simp
      rw [houtcomes, maxFailures_of_change h, ← hs.givesUp error, mem_halts_append_iff,
        or_iff_left hother]
    · rw [houtcomes, maxFailures_of_change h]
      exact hs.before

theorem judges_of_play? {options : Options} {shell : Shell}
    (hplay : (ofShell options shell).play? moves = some t) :
    Judges ((ofShell options shell).visits moves) t := by
  have hrun := play?_induction
    (P := fun past s => s.IsReached ∧ Counts past s ∧ Judges past s) [] ?_ hplay ?_
  · simpa using hrun.2.2
  · rintro past s move s' hmake ⟨hreached, hcounts, hjudges⟩
    have hchange := change_of_make? hmake
    exact ⟨hreached.make? hmake, counts_of_change hchange hreached hcounts,
      judges_of_change hchange hcounts hjudges⟩
  · refine ⟨isReached_ofShell options shell, counts_ofShell options shell, ?_, ?_⟩
    · intro error
      simp [halts, haltsFrom, outcomes]
    · intro earlier later houtcomes hlater
      have hnone : later = [] := (List.append_eq_nil_iff.mp houtcomes.symm).2
      exact absurd hnone hlater

/-! ## One probe at a time -/

/-- A watchdog that has sent some probes keeps to its schedule: it has waited for its period
before each of them and will do so before the next, and all have returned but the last one,
which is under way or was left when the watchdog ended. -/
structure Paces (past : List Visit) (s : Session) (sent : Nat) : Prop where
  fresh : s.startedAt = none → sent = 0
  elapsed : ∀ start ∈ s.startedAt, start + sent * s.options.keepaliveInterval ≤ s.now
  next : ∀ start ∈ s.startedAt, ∀ due ∈ s.watchdog.due?,
    start + (sent + 1) * s.options.keepaliveInterval ≤ due
  returned : sent = (outcomes past).length ∧ s.watchdog.isProbing = false ∨
    sent = (outcomes past).length + 1 ∧
      (s.isCancelled = true ∧ s.watchdog = .finished ∨ s.watchdog.isProbing = true)

theorem probeCount_undergo (shell : Shell) (act : ShellAct) :
    (shell.undergo act).probeCount = shell.probeCount := by
  cases act <;> rfl

theorem probeCount_probe (shell : Shell) : shell.probe.2.probeCount = shell.probeCount + 1 := by
  cases hprobes : shell.probes <;> simp [Shell.probe, hprobes]

theorem probeCount_of_feed {shell shell' : Shell} {rest : List UInt8} {relay : Relay}
    (h : feed shell rest = some (shell', relay)) : shell'.probeCount = shell.probeCount := by
  cases fed_of_feed h <;> rfl

namespace Paces

variable {sent due failures : Nat}

/-- Nothing has been sent when a session is run. -/
theorem of_run (hs : Paces past s sent) (hfresh : s.startedAt = none)
    (h : Change s (.act .run) s') (hnow : s'.now = s.now)
    (hstarted : s'.startedAt = some s.now)
    (hdog : s'.watchdog = .waiting (s.now + s.options.keepaliveInterval) 0) :
    Paces (past ++ [(s, .act .run)]) s' sent := by
  have hnothing : sent = 0 := hs.fresh hfresh
  refine ⟨fun _ => hnothing, ?_, ?_, .inl ⟨?_, by rw [hdog]; rfl⟩⟩
  · rw [hstarted, hnothing, hnow]
    rintro start ⟨⟩
    omega
  · rw [hstarted, hdog, hnothing, options_of_change h]
    rintro start ⟨⟩ due ⟨⟩
    omega
  · rw [outcomes_append_of_none rfl]
    have := hs.returned
    omega

/-- Between two probes nothing is sent. -/
theorem of_rest (hs : Paces past s sent) (h : Change s move s')
    (hstarted : s'.startedAt = s.startedAt)
    (hdue : ∀ due ∈ s'.watchdog.due?, due ∈ s.watchdog.due?)
    (hreturned : sent = (outcomes (past ++ [(s, move)])).length ∧
        s'.watchdog.isProbing = false ∨
      sent = (outcomes (past ++ [(s, move)])).length + 1 ∧
        (s'.isCancelled = true ∧ s'.watchdog = .finished ∨ s'.watchdog.isProbing = true)) :
    Paces (past ++ [(s, move)]) s' sent := by
  refine ⟨?_, ?_, ?_, hreturned⟩
  · rw [hstarted]
    exact hs.fresh
  · rw [hstarted, options_of_change h]
    exact fun start hstart => Nat.le_trans (hs.elapsed start hstart) (now_le_of_change h)
  · rw [hstarted, options_of_change h]
    exact fun start hstart due hmem => hs.next start hstart due (hdue due hmem)

/-- What leaves the watchdog alone keeps the pace. -/
theorem of_same (hs : Paces past s sent) (h : Change s move s')
    (hstarted : s'.startedAt = s.startedAt) (hdog : s'.watchdog = s.watchdog)
    (hprobed : probed? (s, move) = none) : Paces (past ++ [(s, move)]) s' sent := by
  refine hs.of_rest h hstarted (by rw [hdog]; exact fun _ => id) ?_
  rw [outcomes_append_of_none hprobed, hdog]
  exact hs.returned.imp_right (.imp_right (.imp_left (.imp_left (isCancelled_of_change h))))

/-- A watchdog that ends leaves its last probe alone. -/
theorem of_end (hs : Paces past s sent) (h : Change s (.turn .watchdog) s')
    (hcancelled : s.isCancelled = true) (hchoice : s.endFirst = true ∨ s.goWatchdog = none)
    (hstarted : s'.startedAt = s.startedAt) (hdog : s'.watchdog = .finished) :
    Paces (past ++ [(s, .turn .watchdog)]) s' sent := by
  have hprobed := probed?_eq_none_of_end hcancelled hchoice
  refine hs.of_rest h hstarted (by simp [hdog, Watchdog.due?]) ?_
  rw [outcomes_append_of_none hprobed, hdog, isCancelled_of_change h hcancelled]
  exact hs.returned.imp (.imp_right fun _ => rfl) (.imp_right fun _ => .inl ⟨rfl, rfl⟩)

/-- A probe that returns is the last one that was sent. -/
theorem of_return {outcome : Probe} (hs : Paces past s sent) (h : Change s (.turn .watchdog) s')
    (hgoes : s.GoesOn) (hreturns : outcome ≠ .hanging)
    (hdog : s.watchdog = .probing outcome due failures) (hstarted : s'.startedAt = s.startedAt)
    (hdue : ∀ after ∈ s'.watchdog.due?, after = due) (hdog' : s'.watchdog.isProbing = false) :
    Paces (past ++ [(s, .turn .watchdog)]) s' sent := by
  have hlast : sent = (outcomes past).length + 1 := by
    simpa [hdog, Watchdog.isProbing] using hs.returned
  refine hs.of_rest h hstarted ?_ (.inl ⟨?_, hdog'⟩)
  · intro after hafter
    rw [hdue after hafter, hdog]
    rfl
  · rw [outcomes_append, probed?_of_probing hgoes hdog hreturns, hlast]
    simp

/-- A watchdog sends a probe only when the one before it has returned. -/
theorem of_probe {outcome : Probe} (hs : Paces past s sent) (hreached : s.IsReached)
    (h : Change s (.turn .watchdog) s') (hdog : s.watchdog = .waiting due failures)
    (hdue : due ≤ s.now) (hnow : s'.now = s.now) (hstarted : s'.startedAt = s.startedAt)
    (hdog' : s'.watchdog =
      .probing outcome (nextDue s.options.keepaliveInterval due s.now) failures) :
    Paces (past ++ [(s, .turn .watchdog)]) s' (sent + 1) := by
  have hreturned : sent = (outcomes past).length := by
    simpa [hdog, Watchdog.isProbing] using hs.returned
  have hturn : ∀ start ∈ s.startedAt, start + (sent + 1) * s.options.keepaliveInterval ≤ due :=
    fun start hstart => hs.next start hstart due (by rw [hdog]; rfl)
  have hprobed : probed? (s, .turn .watchdog) = none := by simp [probed?, hdog]
  refine ⟨?_, ?_, ?_, .inr ⟨?_, .inr (by rw [hdog']; rfl)⟩⟩
  · rw [hstarted]
    -- The watchdog of a session that was not run is idle.
    intro hfresh
    simp [(hreached.dormant hfresh).watchdog] at hdog
  · rw [hstarted, options_of_change h, hnow]
    exact fun start hstart => Nat.le_trans (hturn start hstart) hdue
  · rw [hstarted, options_of_change h, hdog']
    rintro start hstart _ ⟨⟩
    have hbefore := hturn start hstart
    have hafter := le_nextDue s.options.keepaliveInterval due s.now
    rw [Nat.add_mul _ 1, Nat.one_mul]
    omega
  · rw [outcomes_append_of_none hprobed, hreturned]

end Paces

theorem paces_of_change {sent : Nat} (h : Change s move s') (hreached : s.IsReached)
    (hs : Paces past s sent) :
    ∃ more, s'.shell.probeCount = s.shell.probeCount + more ∧
      Paces (past ++ [(s, move)]) s' (sent + more) := by
  have hchange := h
  cases h with
  | runs hfresh => exact ⟨0, rfl, hs.of_run hfresh hchange rfl rfl rfl⟩
  | shellChanges act => exact ⟨0, probeCount_undergo .., hs.of_same hchange rfl rfl rfl⟩
  | relayFeeds _ _ hfeed => exact ⟨0, probeCount_of_feed hfeed, hs.of_same hchange rfl rfl rfl⟩
  | watchdogEnds hcancelled _ _ hchoice =>
    exact ⟨0, rfl, hs.of_end hchange hcancelled hchoice rfl rfl⟩
  | watchdogProbes _ hdog hdue =>
    exact ⟨1, probeCount_probe _, hs.of_probe hreached hchange hdog hdue rfl rfl rfl⟩
  | watchdogAnswered hgoes hdog | watchdogCounts hgoes hdog =>
    exact ⟨0, rfl, hs.of_return hchange hgoes (by simp) hdog rfl (by rintro _ ⟨⟩; rfl) rfl⟩
  | watchdogGivesUp hgoes hdog =>
    exact ⟨0, rfl, hs.of_return hchange hgoes (by simp) hdog rfl nofun rfl⟩
  | _ => exact ⟨0, rfl, hs.of_same hchange rfl rfl rfl⟩

theorem paces_of_play? {options : Options} {shell : Shell}
    (hplay : (ofShell options shell).play? moves = some t) :
    ∃ sent, t.shell.probeCount = shell.probeCount + sent ∧
      Paces ((ofShell options shell).visits moves) t sent := by
  have hrun := play?_induction (P := fun past s => s.IsReached ∧
    ∃ sent, s.shell.probeCount = shell.probeCount + sent ∧ Paces past s sent) [] ?_ hplay ?_
  · simpa using hrun.2
  · rintro past s move s' hmake ⟨hreached, sent, hcount, hpaces⟩
    obtain ⟨more, hmore, hnext⟩ := paces_of_change (change_of_make? hmake) hreached hpaces
    exact ⟨hreached.make? hmake, sent + more, by omega, hnext⟩
  · refine ⟨isReached_ofShell options shell, 0, rfl, fun _ => rfl, nofun, nofun, .inl ⟨rfl, rfl⟩⟩

/-! ## Stopping -/

/-- A watchdog has something at hand: a probe is due, or one that is under way has returned. -/
def HasProbe (s : Session) : Prop :=
  (∃ due failures, s.watchdog = .waiting due failures ∧ due ≤ s.now) ∨
    ∃ outcome due failures, s.watchdog = .probing outcome due failures ∧ outcome ≠ .hanging

/-- Once the scope has been cancelled, a watchdog ends with its next step, also when its probe
hangs, and changes nothing else, unless it does not look at its end first and has something at
hand. -/
theorem of_late_turn (h : Change s (.turn .watchdog) s') (hcancelled : s.isCancelled = true) :
    s' = { s with watchdog := .finished } ∧ halt? past (s, .turn .watchdog) = none ∨
      s.endFirst = false ∧ s.HasProbe := by
  cases h with
  | watchdogEnds _ _ _ hchoice =>
    refine .inl ⟨rfl, ?_⟩
    rw [halt?, probed?_eq_none_of_end hcancelled hchoice]
  | watchdogProbes hgoes hdog hdue =>
    exact .inr ⟨hgoes hcancelled, .inl ⟨_, _, hdog, hdue⟩⟩
  | watchdogAnswered hgoes hdog | watchdogCounts hgoes hdog | watchdogGivesUp hgoes hdog =>
    exact .inr ⟨hgoes hcancelled, .inr ⟨_, _, _, hdog, by simp⟩⟩

/-- At rest a probe that is under way does not return. -/
theorem hanging_of_rest {outcome : Probe} {due failures : Nat} (hrest : s.step = none)
    (hdog : s.watchdog = .probing outcome due failures) : outcome = .hanging := by
  have hstep : s.stepWatchdog = none := stepOf_eq_none hrest .watchdog
  simp only [stepWatchdog, hdog] at hstep
  refine Decidable.byContradiction fun hreturns => ?_
  exact goWatchdog_ne_none hdog hreturns (race_eq_none_iff.mp hstep).2

/-- For all timings, all ways in which probes go and however long they take, and whenever the
session is stopped: the watchdog gives the session up, with the error of the last probe, if
and only if as many probes in a row as the options say have failed last, which is at least
one, and then this is the first time that they have; if nobody has ended the session before,
that is how it ends. The count of the failures never leaves 32 bits. No probe is sent before
the last one has returned, and none before as many periods as there have been probes have
passed since the start. Once the scope has been cancelled, the watchdog ends with its next
step and gives nothing up, even while a probe hangs, unless it does not look at its end first
and has something at hand; at rest it has ended if and only if the scope has been cancelled,
and otherwise it waits for no probe that returns. And for every period the session can be run
if the clock can count its first probe. -/
theorem gives_up_iff_last_probes_failed {options : Options} {shell : Shell}
    (hplay : (ofShell options shell).play? moves = some t) :
    (∀ error, .failed (.unresponsive error) ∈ halts ((ofShell options shell).visits moves) ↔
        LastFailed (max 1 options.keepaliveMaxFailures.toNat)
            (outcomes ((ofShell options shell).visits moves)) ∧
          (outcomes ((ofShell options shell).visits moves)).getLast? = some (.failed error)) ∧
      (∀ earlier later, outcomes ((ofShell options shell).visits moves) = earlier ++ later →
        later ≠ [] → ¬ LastFailed (max 1 options.keepaliveMaxFailures.toNat) earlier) ∧
      t.scope.first = (halts ((ofShell options shell).visits moves)).head? ∧
      (∀ failures ∈ t.watchdog.failures?, failures + 1 < UInt32.size) ∧
      (∃ sent, t.shell.probeCount = shell.probeCount + sent ∧
        (sent = (outcomes ((ofShell options shell).visits moves)).length ∨
          sent = (outcomes ((ofShell options shell).visits moves)).length + 1 ∧
            (t.isCancelled = true ∧ t.watchdog = .finished ∨ t.watchdog.isProbing = true)) ∧
        (t.startedAt = none → sent = 0) ∧
        ∀ start ∈ t.startedAt, start + sent * options.clamped.keepaliveInterval ≤ t.now) ∧
      (∀ past u u', u.isCancelled = true → u.stepOf .watchdog = some u' →
        u' = { u with watchdog := .finished } ∧ halt? past (u, .turn .watchdog) = none ∨
          u.endFirst = false ∧ u.HasProbe) ∧
      (t.step = none → t.startedAt.isSome →
        (t.watchdog = .finished ↔ t.isCancelled = true) ∧
        ∀ outcome due failures, t.watchdog = .probing outcome due failures →
          outcome = .hanging) ∧
      (t.startedAt = none →
        ((t.make? (.act .run)).isSome ↔
          t.now + options.clamped.keepaliveInterval < seconds secondsOfClock)) := by
  have ht : t.IsReached := ⟨options, shell, moves, hplay⟩
  have hoptions : t.options = options.clamped := options_of_play? hplay
  have hmost : t.maxFailures = max 1 options.keepaliveMaxFailures.toNat := by
    rw [maxFailures, hoptions]
    rfl
  have hjudges := judges_of_play? hplay
  have hrecorded := recorded_of_play? hplay
  rw [← hmost]
  refine ⟨hjudges.givesUp, hjudges.before, hrecorded.first, ?_, ?_, ?_, ?_, run_isSome_iff hplay⟩
  · intro failures hfailures
    have hfew := (hrecorded.counts.failures failures hfailures).2
    have hword : options.keepaliveMaxFailures.toNat < UInt32.size :=
      options.keepaliveMaxFailures.toNat_lt
    have hone : 1 < UInt32.size := by decide
    omega
  · obtain ⟨sent, hcount, hpaces⟩ := paces_of_play? hplay
    refine ⟨sent, hcount, hpaces.returned.imp_left And.left, hpaces.fresh, ?_⟩
    rw [← hoptions]
    exact hpaces.elapsed
  · intro past u u' hcancelled hstep
    exact of_late_turn (change_of_stepWatchdog hstep) hcancelled
  · intro hrest hstarted
    refine ⟨⟨fun hdog => ?_, fun hcancelled => ?_⟩, fun _ _ _ hdog => hanging_of_rest hrest hdog⟩
    · refine Bool.not_eq_false _ |>.mp fun hopen => ?_
      exact (ht.undisturbed hopen).watchdog hdog
    · exact watchdog_of_rest hrest hcancelled (ht.awake hstarted).watchdog

/-- With a threshold of two, a failed probe that is followed by an answer does no harm, and
two failed ones in a row do. The last of them returns late. -/
theorem gives_up_after_two :
    ∃ t visits, (ofShell ⟨millis 60, seconds 1, 2, millis 500⟩ .fresh).play?
        [.act .run, .act (.shell (.expectProbes [.failed (.probe "late"), .answered,
            .failed (.probe "late"), .failed (.probe "gone")])),
          .pass (seconds 1), .turn .watchdog, .turn .watchdog, .pass (seconds 2), .turn .watchdog,
          .turn .watchdog, .pass (seconds 3), .turn .watchdog, .turn .watchdog, .pass (seconds 4),
          .turn .watchdog, .pass (seconds 9), .turn .watchdog] = some t ∧
      .failed (.unresponsive (.probe "gone")) ∈ halts visits ∧
      t.scope.first = (halts visits).head? := by
  generalize hmoves : ([.act .run, .act (.shell (.expectProbes [.failed (.probe "late"),
      .answered, .failed (.probe "late"), .failed (.probe "gone")])),
    .pass (seconds 1), .turn .watchdog, .turn .watchdog, .pass (seconds 2), .turn .watchdog,
    .turn .watchdog, .pass (seconds 3), .turn .watchdog, .turn .watchdog, .pass (seconds 4),
    .turn .watchdog, .pass (seconds 9), .turn .watchdog] : List Move) = moves
  generalize hoptions : (⟨millis 60, seconds 1, 2, millis 500⟩ : Options) = options
  have hrun : ((ofShell options .fresh).play? moves).isSome := by
    rw [← hmoves, ← hoptions]
    decide
  have hprobes : outcomes ((ofShell options .fresh).visits moves) =
      [.failed (.probe "late"), .answered] ++
        [.failed (.probe "late"), .failed (.probe "gone")] := by
    rw [← hmoves, ← hoptions]
    decide
  obtain ⟨t, hplay⟩ := Option.isSome_iff_exists.mp hrun
  obtain ⟨hgivesUp, -, hfirst, -⟩ := gives_up_iff_last_probes_failed hplay
  refine ⟨t, _, hplay, (hgivesUp _).mpr ?_, hfirst⟩
  rw [hprobes, ← hoptions]
  exact ⟨⟨_, List.suffix_append .., rfl, by decide⟩, rfl⟩

/-- A session that is stopped when a probe is due may still be given up, as the watchdog
sends the probe first and judges it. And a session with the longest period that can be
configured cannot be run one second after the clock began. -/
theorem gives_up_after_stop :
    ((ofShell ⟨millis 60, seconds 1, 1, millis 500⟩ .fresh).play?
        [.act .run, .act (.shell (.expectProbes [.failed (.probe "gone")])), .pass (seconds 1),
          .act .stop, .turn .stop, .act (.setEndFirst false), .turn .watchdog,
          .turn .watchdog]).map (·.scope) =
        some ⟨some (seconds 1), some (.failed (.unresponsive (.probe "gone")))⟩ ∧
      ((ofShell ⟨millis 60, seconds 9223372036854775807, 1, millis 500⟩ .fresh).play?
          [.pass (seconds 1)]).map (fun s => (s.make? (.act .run)).isSome) = some false :=
  ⟨rfl, rfl⟩

end Session

end RemoteShell

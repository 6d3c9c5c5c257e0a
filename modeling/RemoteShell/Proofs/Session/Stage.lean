import RemoteShell.Proofs.Session.Change

/-!
# The stages of a session

Until it is run a session is dormant: no task does anything. As long as nothing has
cancelled its scope it is undisturbed: no task has ended and the shell has not been
touched. Both stages end once, and the instants at which they end stay.
-/

namespace RemoteShell.Session

variable {s s' t : Session} {move : Move} {moves : List Move}

/-! ## Instants that stay -/

theorem options_of_change (h : Change s move s') : s'.options = s.options := by
  cases h <;> rfl

theorem options_of_play? (hplay : s.play? moves = some t) : t.options = s.options :=
  play?_invariant (P := fun u => u.options = s.options)
    (fun _ _ _ hmake hu => (options_of_change (change_of_make? hmake)).trans hu) hplay rfl

theorem startedAt_of_change (h : Change s move s') {start : Nat}
    (hstart : s.startedAt = some start) : s'.startedAt = some start := by
  cases h with
  | runs hfresh => simp [hstart] at hfresh
  | _ => exact hstart

theorem startedAt_eq_none_of_change (h : Change s move s') (hfresh : s'.startedAt = none) :
    s.startedAt = none := by
  cases hstarted : s.startedAt with
  | none => rfl
  | some start => simp [startedAt_of_change h hstarted] at hfresh

theorem now_le_of_change (h : Change s move s') : s.now ≤ s'.now := by
  cases h with
  | passes hle => exact hle
  | _ => exact Nat.le_refl _

/-- Only the first cancellation counts. -/
theorem cancelledAt_of_change (h : Change s move s') {instant : Nat}
    (hcancelled : s.scope.cancelledAt = some instant) :
    s'.scope.cancelledAt = some instant := by
  cases h <;> simp [Scope.cancel, Scope.endWith, hcancelled]

theorem isCancelled_iff : s.isCancelled = true ↔ ∃ instant, s.scope.cancelledAt = some instant := by
  simp [isCancelled, Scope.isCancelled, Option.isSome_iff_exists]

theorem isCancelled_of_change (h : Change s move s') (hcancelled : s.isCancelled = true) :
    s'.isCancelled = true := by
  obtain ⟨instant, hinstant⟩ := isCancelled_iff.mp hcancelled
  exact isCancelled_iff.mpr ⟨instant, cancelledAt_of_change h hinstant⟩

theorem open_of_change (h : Change s move s') (hopen : s'.isCancelled = false) :
    s.isCancelled = false :=
  Bool.eq_false_iff.mpr fun hcancelled => by simp [isCancelled_of_change h hcancelled] at hopen

theorem drainDeadline?_eq_some_iff {deadline : Nat} :
    s.drainDeadline? = some deadline ↔ ∃ instant start, s.scope.cancelledAt = some instant ∧
      s.startedAt = some start ∧ max instant start + s.options.drainTimeout = deadline := by
  simp [drainDeadline?, Option.bind_eq_some_iff]

/-- Once a session runs and is cancelled, it is settled when it has to be done. -/
theorem drainDeadline?_of_change (h : Change s move s') {deadline : Nat}
    (hdeadline : s.drainDeadline? = some deadline) : s'.drainDeadline? = some deadline := by
  obtain ⟨instant, start, hinstant, hstart, hsum⟩ := drainDeadline?_eq_some_iff.mp hdeadline
  exact drainDeadline?_eq_some_iff.mpr ⟨instant, start, cancelledAt_of_change h hinstant,
    startedAt_of_change h hstart, by rw [options_of_change h, hsum]⟩

/-! ## Before the run -/

/-- No task does anything. -/
structure Dormant (s : Session) : Prop where
  relay : s.relay = .idle
  pump : s.pump = .idle
  watchdog : s.watchdog = .idle
  exitWatch : s.exitWatch = .idle
  closer : s.closer = .idle
  runner : s.runner = .idle

theorem dormant_of_change (h : Change s move s') (hs : s.startedAt = none → s.Dormant)
    (hfresh : s'.startedAt = none) : s'.Dormant := by
  cases h with
  | runs => cases hfresh
  | pumpMoves hturn | pumpFails hturn =>
    have hpump := (hs hfresh).pump
    rw [hpump] at hturn
    cases hturn
  | _ =>
    obtain ⟨hrelay, hpump, hwatchdog, hexitWatch, hcloser, hrunner⟩ := hs hfresh
    constructor <;> simp_all [Pump.write?]

/-! ## Before the cancellation -/

/-- No task has ended and the shell has not been torn down. -/
structure Undisturbed (s : Session) : Prop where
  relay : s.relay ≠ .finished
  pump : s.pump.isLast = false
  watchdog : s.watchdog ≠ .finished
  exitWatch : s.exitWatch = .idle ∨ s.exitWatch = .waiting
  closer : s.closer = .idle ∨ s.closer = .waiting
  runner : s.runner = .idle ∨ s.runner = .running
  teardown : s.teardown = .idle
  first : s.scope.first = none

theorem relay_ne_finished_of_feed {shell shell' : Shell} {rest : List UInt8} {relay : Relay}
    (h : feed shell rest = some (shell', relay)) : relay ≠ .finished := by
  cases fed_of_feed h <;> simp

/-- While it may go on, a pump makes no last capture. -/
theorem isLast_of_turn {period now : Nat} {pump pump' : Pump} {outlet outlet' : Outlet}
    (h : Pump.Turn period now false outlet pump pump' outlet')
    (hgood : ∀ error lost, pump' ≠ .finished (.error error) lost) (hlast : pump.isLast = false) :
    pump'.isLast = false := by
  cases h <;> simp_all [Pump.isLast]

theorem undisturbed_of_change (h : Change s move s') (hs : s.isCancelled = false → s.Undisturbed)
    (hopen : s'.isCancelled = false) : s'.Undisturbed := by
  have hold := open_of_change h hopen
  obtain ⟨hrelay, hpump, hwatchdog, hexitWatch, hcloser, hrunner, hdown, hfirst⟩ := hs hold
  cases h with
  | runs => constructor <;> simp_all [Pump.isLast]
  | relayFeeds _ _ hfeed =>
    exact ⟨relay_ne_finished_of_feed hfeed, hpump, hwatchdog, hexitWatch, hcloser, hrunner, hdown,
      hfirst⟩
  | pumpMoves hturn hgood =>
    rw [hold] at hturn
    exact ⟨hrelay, isLast_of_turn hturn hgood hpump, hwatchdog, hexitWatch, hcloser, hrunner, hdown,
      hfirst⟩
  | closes | closesAgain | stopCancels | relayMeetsEnd | relayMeetsFailure | pumpFails | pumpGivesUp
  | watchdogGivesUp | exitWatchReports =>
    simp [isCancelled] at hopen
  | runnerTearsDown _ htasks | runnerReturns _ htasks => simp [tasksFinished, hold] at htasks
  | _ => constructor <;> simp_all

/-! ## Reachable states -/

/-- A session that has been set up can get here. -/
def IsReached (s : Session) : Prop :=
  ∃ options shell moves, (ofShell options shell).play? moves = some s

theorem IsReached.play? (h : s.IsReached) (hplay : s.play? moves = some t) : t.IsReached := by
  obtain ⟨options, shell, before, hbefore⟩ := h
  exact ⟨options, shell, before ++ moves, by rw [play?_append hbefore, hplay]⟩

theorem IsReached.make? (h : s.IsReached) (hmake : s.make? move = some t) : t.IsReached := by
  have hplay : s.play? [move] = some t := by simp [Session.play?, hmake]
  exact h.play? hplay

/-- What every move from a reachable state keeps holds at the end of a run from one. -/
theorem IsReached.along {P : Session → Prop} (h : s.IsReached)
    (hchange : ∀ s move s', s.IsReached → Change s move s' → P s → P s')
    (hplay : s.play? moves = some t) (hs : P s) : P t := by
  have hboth := play?_invariant (P := fun s => s.IsReached ∧ P s) ?_ hplay ⟨h, hs⟩
  · exact hboth.2
  · rintro s move s' hmake ⟨h, hs⟩
    exact ⟨h.make? hmake, hchange s move s' h (change_of_make? hmake) hs⟩

theorem isReached_ofShell (options : Options) (shell : Shell) : (ofShell options shell).IsReached :=
  ⟨options, shell, [], rfl⟩

/-- What every move from a reachable state keeps holds of every reachable state. -/
theorem IsReached.induction {P : Session → Prop} (h : s.IsReached)
    (hinit : ∀ options shell, P (ofShell options shell))
    (hchange : ∀ s move s', s.IsReached → Change s move s' → P s → P s') : P s := by
  obtain ⟨options, shell, moves, hplay⟩ := h
  exact (isReached_ofShell options shell).along hchange hplay (hinit options shell)

theorem IsReached.dormant (h : s.IsReached) (hfresh : s.startedAt = none) : s.Dormant :=
  h.induction (P := fun s => s.startedAt = none → s.Dormant)
    (fun _ _ _ => ⟨rfl, rfl, rfl, rfl, rfl, rfl⟩)
    (fun _ _ _ _ hchange hs => dormant_of_change hchange hs) hfresh

theorem IsReached.undisturbed (h : s.IsReached) (hopen : s.isCancelled = false) :
    s.Undisturbed :=
  h.induction (P := fun s => s.isCancelled = false → s.Undisturbed)
    (fun _ _ _ => ⟨nofun, rfl, nofun, .inl rfl, .inl rfl, .inl rfl, rfl, rfl⟩)
    (fun _ _ _ _ hchange hs => undisturbed_of_change hchange hs) hopen

end RemoteShell.Session

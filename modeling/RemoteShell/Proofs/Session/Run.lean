import RemoteShell.Session.Action

/-!
# Runs of a session

A run is a list of moves: the outside does something, a task takes a turn, or
time passes. The tasks take their turns in any order, the outside interferes
between any two of them, and time may pass while there is still work to do, so
that every timer can be late. A run is punctual if time passes only when nothing
is left to do, and never beyond the next timer. Settling and advancing a session
are punctual runs (`exists_turns_settle`, `exists_moves_advance`).
-/

namespace RemoteShell

/-- What can change about a shell from outside. -/
inductive ShellAct where
  | leave (exit : Except ShellFault Int)
  | expectProbes (probes : List Probe)
  | setResizing (resizing : Behaviour ShellFault)
  | setClosing (closing : Behaviour ShellFault)
  | setFailure (failure : Option String)
  | setRoom (room : Option Nat)
  | setFlushing (flushing : Behaviour String)
  | setShutdown (shutdown : Behaviour String)

/-- Carries out a change of a shell. -/
def Shell.undergo (shell : Shell) : ShellAct → Shell
  | .leave exit => shell.leave exit
  | .expectProbes probes => shell.expectProbes probes
  | .setResizing resizing => shell.setResizing resizing
  | .setClosing closing => shell.setClosing closing
  | .setFailure failure => shell.setFailure failure
  | .setRoom room => shell.setRoom room
  | .setFlushing flushing => shell.setFlushing flushing
  | .setShutdown shutdown => shell.setShutdown shutdown

/-- What can happen to a session from outside. -/
inductive Act where
  | run
  | stop
  | close
  | arrive (arrival : Arrival)
  | setWriting (writing : Behaviour ClientFault)
  | setClosing (closing : Behaviour ClientFault)
  | emit (bytes : List UInt8)
  | shell (act : ShellAct)
  | setEndFirst (endFirst : Bool)

/-- A move of a run. -/
inductive Move where
  | act (act : Act)
  /-- A task takes one step. -/
  | turn (task : Session.Task)
  /-- Time passes until an instant. -/
  | pass (instant : Nat)

/-- A state of a run and the move that is made there. -/
abbrev Visit := Session × Move

namespace Session

/-- Carries out what happens from outside; none if the program breaks off with it. Running a
session again changes nothing. -/
def undergo? (s : Session) : Act → Option Session
  | .run => s.run.map fun answer => answer.toOption.getD s
  | .stop => some s.stop
  | .close => some s.close
  | .arrive arrival => some (s.arrive arrival)
  | .setWriting writing => some (s.setWriting writing)
  | .setClosing closing => some (s.setClosing closing)
  | .emit bytes => some (s.emit bytes)
  | .shell act => some (s.withShell (·.undergo act))
  | .setEndFirst endFirst => some (s.setEndFirst endFirst)

/-- Makes a move; none if the task has to wait, time would go back, or the program breaks
off. -/
def make? (s : Session) : Move → Option Session
  | .act act => s.undergo? act
  | .turn task => s.stepOf task
  | .pass instant => if s.now ≤ instant then some (s.setNow instant) else none

/-- Makes one move after the other. -/
def play? (s : Session) : List Move → Option Session
  | [] => some s
  | move :: later => (s.make? move).bind (·.play? later)

/-- The moves of a run, each with the state that it is made in. -/
def visits (s : Session) : List Move → List Visit
  | [] => []
  | move :: later => (s, move) :: (s.make? move).elim [] (·.visits later)

/-- Time passes only at rest, and not beyond the next timer. -/
def IsPunctual (s : Session) : Move → Prop
  | .pass instant => s.step = none ∧ ∀ due ∈ s.nextTimer?, instant ≤ due
  | _ => True

instance (s : Session) : (move : Move) → Decidable (s.IsPunctual move)
  | .act _ | .turn _ => inferInstanceAs (Decidable True)
  | .pass instant =>
    inferInstanceAs (Decidable (s.step = none ∧ ∀ due ∈ s.nextTimer?, instant ≤ due))

/-- All moves of a run are punctual. -/
def PlaysPunctually (s : Session) (moves : List Move) : Prop :=
  ∀ visit ∈ s.visits moves, visit.1.IsPunctual visit.2

instance (s : Session) (moves : List Move) : Decidable (s.PlaysPunctually moves) :=
  inferInstanceAs (Decidable (∀ visit ∈ s.visits moves, visit.1.IsPunctual visit.2))

/-! ## Runs in parts -/

variable {s t : Session} {moves later : List Move}

theorem play?_cons_eq_some {move : Move} (h : s.play? (move :: later) = some t) :
    ∃ s', s.make? move = some s' ∧ s'.play? later = some t :=
  Option.bind_eq_some_iff.mp h

theorem visits_cons {s' : Session} {move : Move} (h : s.make? move = some s') :
    s.visits (move :: later) = (s, move) :: s'.visits later := by
  simp only [visits, h, Option.elim_some]

theorem play?_append (h : s.play? moves = some t) :
    s.play? (moves ++ later) = t.play? later := by
  induction moves generalizing s with
  | nil => cases h; rfl
  | cons move rest ih =>
    obtain ⟨s', hmake, hrest⟩ := play?_cons_eq_some h
    rw [List.cons_append, play?, hmake, Option.bind_some, ih hrest]

theorem visits_append (h : s.play? moves = some t) :
    s.visits (moves ++ later) = s.visits moves ++ t.visits later := by
  induction moves generalizing s with
  | nil => cases h; rfl
  | cons move rest ih =>
    obtain ⟨s', hmake, hrest⟩ := play?_cons_eq_some h
    rw [List.cons_append, visits_cons hmake, visits_cons hmake, ih hrest, List.cons_append]

/-- A visit splits a run into what came before, its move, and what comes after. -/
theorem exists_of_visits_eq {past rest : List Visit} {v : Session} {move : Move}
    (hplay : s.play? moves = some t) (hvisits : s.visits moves = past ++ (v, move) :: rest) :
    ∃ before after v', moves = before ++ move :: after ∧ s.play? before = some v ∧
      s.visits before = past ∧ v.make? move = some v' ∧ v'.play? after = some t ∧
      v'.visits after = rest := by
  induction past generalizing s moves with
  | nil =>
    cases moves with
    | nil => simp [visits] at hvisits
    | cons head after =>
      obtain ⟨s', hmake, hafter⟩ := play?_cons_eq_some hplay
      rw [visits_cons hmake, List.nil_append, List.cons.injEq, Prod.mk.injEq] at hvisits
      obtain ⟨⟨rfl, rfl⟩, hrest⟩ := hvisits
      exact ⟨[], after, s', rfl, rfl, rfl, hmake, hafter, hrest⟩
  | cons visit past ih =>
    cases moves with
    | nil => simp [visits] at hvisits
    | cons head after =>
      obtain ⟨s', hmake, hafter⟩ := play?_cons_eq_some hplay
      rw [visits_cons hmake, List.cons_append, List.cons.injEq] at hvisits
      obtain ⟨rfl, hrest⟩ := hvisits
      obtain ⟨before, after', v', rfl, hbefore, hpast, hv⟩ := ih hafter hrest
      refine ⟨head :: before, after', v', rfl, ?_, ?_, hv⟩
      · rw [play?, hmake, Option.bind_some, hbefore]
      · rw [visits_cons hmake, hpast]

theorem exists_of_mem_visits {v : Session} {move : Move} (hplay : s.play? moves = some t)
    (hvisit : (v, move) ∈ s.visits moves) :
    ∃ before after v', moves = before ++ move :: after ∧ s.play? before = some v ∧
      v.make? move = some v' ∧ v'.play? after = some t := by
  obtain ⟨past, rest, hvisits⟩ := List.append_of_mem hvisit
  obtain ⟨before, after, v', hmoves, hbefore, -, hmake, hafter, -⟩ :=
    exists_of_visits_eq hplay hvisits
  exact ⟨before, after, v', hmoves, hbefore, hmake, hafter⟩

/-! ## What runs keep -/

/-- What every move keeps holds at the end of a run. The past is what has been
visited so far. -/
theorem play?_induction {P : List Visit → Session → Prop} (past : List Visit)
    (hmove : ∀ past s move s', s.make? move = some s' → P past s → P (past ++ [(s, move)]) s')
    (hplay : s.play? moves = some t) (hs : P past s) : P (past ++ s.visits moves) t := by
  induction moves generalizing past s with
  | nil =>
    cases hplay
    simpa [visits] using hs
  | cons move later ih =>
    obtain ⟨s', hmake, hlater⟩ := play?_cons_eq_some hplay
    rw [visits_cons hmake, List.append_cons]
    exact ih _ hlater (hmove past s move s' hmake hs)

/-- What every move of a certain kind keeps holds at the end of a run of such moves. -/
theorem play?_preserves {P : Session → Prop} {Q : Visit → Prop}
    (hmove : ∀ s move s', Q (s, move) → s.make? move = some s' → P s → P s')
    (hplay : s.play? moves = some t) (hvisits : ∀ visit ∈ s.visits moves, Q visit) (hs : P s) :
    P t := by
  induction moves generalizing s with
  | nil =>
    cases hplay
    exact hs
  | cons move later ih =>
    obtain ⟨s', hmake, hlater⟩ := play?_cons_eq_some hplay
    rw [visits_cons hmake, List.forall_mem_cons] at hvisits
    exact ih hlater hvisits.2 (hmove s move s' hvisits.1 hmake hs)

/-- What every move keeps holds at the end of a run. -/
theorem play?_invariant {P : Session → Prop}
    (hmove : ∀ s move s', s.make? move = some s' → P s → P s')
    (hplay : s.play? moves = some t) (hs : P s) : P t :=
  play?_preserves (Q := fun _ => True) (fun s move s' _ => hmove s move s') hplay
    (fun _ _ => trivial) hs

/-! ## Settling and advancing -/

theorem now_close (s : Session) : s.close.now = s.now := by
  cases hdown : s.teardown <;> simp only [close, startTeardown?, cancel, hdown]

/-- What happens from outside takes no time. -/
theorem now_of_undergo? {act : Act} (h : s.undergo? act = some t) : t.now = s.now := by
  cases act with
  | run =>
    obtain ⟨answer, hrun, rfl⟩ := Option.map_eq_some_iff.mp h
    unfold run at hrun
    split at hrun
    · cases hrun
      rfl
    · obtain ⟨timers, -, rfl⟩ := Option.map_eq_some_iff.mp hrun
      rfl
  | close =>
    cases h
    exact now_close s
  | _ =>
    cases h
    rfl

/-- Time can pass to any instant that does not lie behind. -/
theorem make?_pass_eq_some_iff {instant : Nat} :
    s.make? (.pass instant) = some t ↔ s.now ≤ instant ∧ s.setNow instant = t := by
  simp [make?]

/-- A move other than the passing of time takes no time. -/
theorem now_of_make? {move : Move} (h : s.make? move = some t)
    (hmove : ∀ instant, move ≠ .pass instant) : t.now = s.now := by
  cases move with
  | act act => exact now_of_undergo? h
  | turn task => exact now_of_stepOf h
  | pass instant => exact absurd rfl (hmove instant)

/-- Settling a session is a run in which only tasks take turns. -/
theorem exists_turns_settle (s : Session) :
    ∃ tasks : List Task, s.play? (tasks.map .turn) = some s.settle := by
  fun_induction settle s with
  | case1 s h => exact ⟨[], rfl⟩
  | case2 s s' h ih =>
    obtain ⟨tasks, hplay⟩ := ih
    obtain ⟨task, _, htask⟩ := List.exists_of_findSome?_eq_some h
    refine ⟨task :: tasks, ?_⟩
    rw [List.map_cons, play?, make?, htask, Option.bind_some, hplay]

/-- A timer that is waited for lies ahead. -/
theorem now_lt_of_mem_nextTimer? {due : Nat} (h : due ∈ s.nextTimer?) : s.now < due := by
  have hmem := List.min?_mem h
  simpa using (List.mem_filter.mp hmem).2

theorem playsPunctually_cons {s' : Session} {move : Move} (h : s.make? move = some s') :
    s.PlaysPunctually (move :: later) ↔ s.IsPunctual move ∧ s'.PlaysPunctually later := by
  rw [PlaysPunctually, visits_cons h, List.forall_mem_cons]
  rfl

/-- A run in which no time passes is punctual. -/
theorem playsPunctually_of_timeless (h : ∀ move ∈ moves, ∀ instant, move ≠ .pass instant) :
    s.PlaysPunctually moves := by
  induction moves generalizing s with
  | nil => simp [PlaysPunctually, visits]
  | cons move later ih =>
    rw [List.forall_mem_cons] at h
    have hpunctual : s.IsPunctual move := by
      cases move with
      | pass instant => exact absurd rfl (h.1 instant)
      | _ => trivial
    cases hmake : s.make? move with
    | none => simpa [PlaysPunctually, visits, hmake] using hpunctual
    | some s' => exact (playsPunctually_cons hmake).mpr ⟨hpunctual, ih h.2⟩

theorem playsPunctually_turns (s : Session) (tasks : List Task) :
    s.PlaysPunctually (tasks.map .turn) :=
  playsPunctually_of_timeless (by simp)

theorem PlaysPunctually.append (hplay : s.play? moves = some t) (hmoves : s.PlaysPunctually moves)
    (hlater : t.PlaysPunctually later) : s.PlaysPunctually (moves ++ later) := by
  rw [PlaysPunctually, visits_append hplay, List.forall_mem_append]
  exact ⟨hmoves, hlater⟩

/-- Letting time pass at rest and settling is a punctual run. -/
theorem exists_moves_pass {instant : Nat} (hrest : s.step = none) (hle : s.now ≤ instant)
    (hdue : ∀ due ∈ s.nextTimer?, instant ≤ due) :
    ∃ moves, s.play? moves = some (s.setNow instant).settle ∧ s.PlaysPunctually moves := by
  obtain ⟨tasks, hplay⟩ := exists_turns_settle (s.setNow instant)
  have hmake : s.make? (.pass instant) = some (s.setNow instant) :=
    make?_pass_eq_some_iff.mpr ⟨hle, rfl⟩
  refine ⟨.pass instant :: tasks.map .turn, ?_, ?_⟩
  · rw [play?, hmake, Option.bind_some, hplay]
  · exact (playsPunctually_cons hmake).mpr ⟨⟨hrest, hdue⟩, playsPunctually_turns _ tasks⟩

/-- Advancing a session that is at rest is a punctual run. -/
theorem exists_moves_advanceTo (target : Nat) (hrest : s.step = none) (hle : s.now ≤ target) :
    ∃ moves, s.play? moves = some (s.advanceTo target) ∧ s.PlaysPunctually moves := by
  fun_induction advanceTo s target with
  | case1 s hnone => exact exists_moves_pass hrest hle (by simp [hnone])
  | case2 s due hdue hbetween ih =>
    obtain ⟨moves, hplay, hmoves⟩ :=
      exists_moves_pass hrest (Nat.le_of_lt hbetween.1) (by simp [hdue])
    have hnow : (s.setNow due).settle.now = due := now_settle _
    obtain ⟨later, hlater, hpunctual⟩ := ih (step_settle _) (by omega)
    exact ⟨moves ++ later, by rw [play?_append hplay, hlater], hmoves.append hplay hpunctual⟩
  | case3 s due hdue hbetween =>
    have hlt := now_lt_of_mem_nextTimer? hdue
    refine exists_moves_pass hrest hle fun later hlater => ?_
    obtain rfl : due = later := by simpa [hdue] using hlater
    omega

/-- Advancing a session that is at rest is a punctual run. -/
theorem exists_moves_advance (length : Nat) (hrest : s.step = none) :
    ∃ moves, s.play? moves = some (s.advance length) ∧ s.PlaysPunctually moves :=
  exists_moves_advanceTo _ hrest (by omega)

end Session

end RemoteShell

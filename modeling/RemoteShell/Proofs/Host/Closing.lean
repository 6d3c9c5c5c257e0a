import Mathlib.Data.List.Induction
import RemoteShell.Host.LoginShell

/-!
# A shell that has been closed

A shell is used by calls in any order (`Call`), and a wait for a program goes on while other
calls are made (`Use`, `make_wait`). Once a shell has been closed, nothing should be left of it:
each program it has started has been killed or waited for, and it holds no terminal and no
input (`IsReleased`).

The first close takes back the input, the program that was started last and the terminal on
which it runs; any other takes back nothing. So a close that goes well has released
everything just if there was no more to release (`IsReady`), and this lasts until the next
terminal is opened (`stays_released_iff`). No harm is done as long as one terminal is opened
and the shell is started on it before it is closed (`isReady_of_opens_le_one`). But a
terminal on which nothing was started outlives the close, and a shell can still be
started on it (`starts_after_closing`); and a close that the host has refused is never made
up for, since the next one goes well without doing anything (`close_close`).
-/

namespace RemoteShell.Host

/-- A call to a shell, with what the host says to it. -/
inductive Call where
  | openTerminal (opened : Except String Nat) (copied : Except String Unit)
  | giveInput
  | listen
  | start (spawned : Except String Nat) (copied : Except String Unit)
  | resize (resized : Except String Unit)
  | probe (found : Except String Unit)
  | beginWait
  /-- Waiting for a program is over. Who stops to wait for it drops it, which is no different
  from an error. -/
  | endWait (pid : Nat) (awaited : Except String Int)
  | close (killed : KillResult)

/-- Tells whether a call sets up a terminal. -/
def Call.opens : Call → Bool
  | .openTerminal (.ok _) (.ok ()) => true
  | _ => false

namespace LoginShell

variable {shell : LoginShell}

/-- All programs that were ever started. -/
def programs (shell : LoginShell) : List Nat := shell.started.map Prod.fst

/-- Nothing is left of a shell on its host. -/
structure IsReleased (shell : LoginShell) : Prop where
  ended : ∀ program ∈ shell.started, program.2 ≠ .running
  pair : shell.pair = none
  terminal : shell.terminal = none
  stdin : shell.stdin = none

/-- There is nothing left of a shell that a close would not release: the first one kills the
program that was started last and lets go of the terminal on which it runs. -/
def IsReady (shell : LoginShell) : Prop :=
  if shell.isClosed then shell.IsReleased
  else shell.pair = none ∧
    ∀ program ∈ shell.started, program.2 = .running → shell.pid = some program.1

/-! ## Noting the fate of programs -/

@[simp] theorem programs_settleFate (pid : Nat) (fate : Fate) :
    (shell.settleFate pid fate).programs = shell.programs := by
  rw [programs, programs, settleFate, List.map_map]
  refine List.map_congr_left fun program _ => ?_
  dsimp only [Function.comp_apply]
  split <;> rfl

@[simp] theorem programs_dropChild : shell.dropChild.programs = shell.programs := by
  unfold dropChild
  split
  · rfl
  · exact programs_settleFate _ _

/-- A program that is no longer running is not started again by noting its fate. -/
theorem ended_settleFate {pid : Nat} {fate : Fate} (hfate : fate ≠ .running)
    (h : ∀ program ∈ shell.started, program.2 ≠ .running) :
    ∀ program ∈ (shell.settleFate pid fate).started, program.2 ≠ .running := by
  refine List.forall_mem_map.mpr fun program hprogram => ?_
  dsimp only
  split
  · exact hfate
  · exact h program hprogram

/-- Killing a program leaves none running just if no other one was. -/
theorem ended_settleFate_killed_iff {pid : Nat} :
    (∀ program ∈ (shell.settleFate pid .killed).started, program.2 ≠ .running) ↔
      ∀ program ∈ shell.started, program.2 = .running → pid = program.1 := by
  rw [settleFate, List.forall_mem_map]
  refine forall₂_congr fun program _ => ?_
  obtain ⟨number, fate⟩ := program
  obtain rfl | h := Decidable.em (pid = number)
  · cases fate <;> simp
  · cases fate <;> simp [h, Ne.symm h]

/-! ## Closing -/

/-- A close that goes well leaves nothing of a shell just if the shell is ready for it. -/
theorem isReleased_close_iff {killed : KillResult}
    (hlast : shell.pid = shell.programs.getLast?) (hok : (shell.close killed).1 = .ok ()) :
    (shell.close killed).2.IsReleased ↔ shell.IsReady := by
  by_cases hclosed : shell.isClosed
  · simp only [close, IsReady, if_pos hclosed]
  simp only [close, IsReady, if_neg hclosed] at hok ⊢
  cases hpid : shell.pid with
  | none =>
    -- No program is known, so none was ever started.
    have hnothing : shell.started = [] := by simpa [hpid, programs] using hlast.symm
    constructor
    · intro h
      exact ⟨h.pair, by simp [hnothing]⟩
    · rintro ⟨hpair, -⟩
      exact ⟨by simp [hnothing], hpair, rfl, rfl⟩
  | some pid =>
    simp only [hpid, Option.some.injEq] at hok ⊢
    rw [← ended_settleFate_killed_iff]
    cases killed with
    | refused message => cases hok
    | sent | gone => exact ⟨fun h => ⟨h.pair, h.ended⟩, fun h => ⟨h.2, h.1, rfl, rfl⟩⟩

/-- A close after another one goes well and does nothing, whatever has come of the first. -/
theorem close_close (killed again : KillResult) :
    (shell.close killed).2.close again = (.ok (), (shell.close killed).2) := by
  have hclosed : (shell.close killed).2.isClosed = true := by
    unfold LoginShell.close
    split
    · assumption
    · dsimp only
      split
      · rfl
      · split <;> rfl
  rw [close, if_pos hclosed]

/-- Where nothing is left of a shell, closing it leaves nothing either. -/
theorem IsReleased.close (h : shell.IsReleased) (killed : KillResult) :
    (shell.close killed).2.IsReleased := by
  unfold LoginShell.close
  split
  · exact h
  dsimp only
  split
  · exact ⟨h.ended, h.pair, rfl, rfl⟩
  split
  · exact ⟨h.ended, h.pair, h.terminal, rfl⟩
  all_goals exact ⟨ended_settleFate (by decide) h.ended, h.pair, rfl, rfl⟩

end LoginShell

/-! ## Calls in any order -/

/-- A shell in use, and the programs that are being waited for. -/
structure Use where
  shell : LoginShell
  awaiting : List Nat

namespace Use

open LoginShell

variable {use : Use} {call : Call}

/-- What a call makes of a shell. -/
def make (use : Use) : Call → Use
  | .openTerminal opened copied => { use with shell := (use.shell.openTerminal opened copied).2 }
  | .giveInput => { use with shell := use.shell.giveInput.2 }
  | .listen => { use with shell := use.shell.listen }
  | .start spawned copied => { use with shell := (use.shell.start spawned copied).2 }
  | .resize _ | .probe _ => use
  | .beginWait =>
    match use.shell.takeChild with
    | (.error _, _) => use
    | (.ok pid, shell) => ⟨shell, pid :: use.awaiting⟩
  | .endWait pid awaited =>
    if pid ∈ use.awaiting then ⟨(use.shell.reap pid awaited).2, use.awaiting.erase pid⟩ else use
  | .close killed => { use with shell := (use.shell.close killed).2 }

/-- A shell after some calls. -/
def play (path : String) (calls : List Call) : Use := calls.foldl make ⟨ofPath path, []⟩

@[simp] theorem play_concat (path : String) (calls : List Call) (call : Call) :
    play path (calls ++ [call]) = (play path calls).make call := by
  simp [play]

/-- To wait for a program is to begin it and to end it. -/
theorem make_wait {pid : Nat} (hchild : use.shell.child = some pid)
    (awaited : Except String Int) :
    ((use.make .beginWait).make (.endWait pid awaited)).shell = (use.shell.wait awaited).2 := by
  simp only [make, wait, takeChild, hchild, List.mem_cons_self, if_true]

/-- Only a start adds a program, which is then the last one, and it uses up a terminal to do
so. Only an opening provides one. -/
theorem make_cases (use : Use) (call : Call) :
    (use.make call).shell.pid = use.shell.pid ∧
        (use.make call).shell.programs = use.shell.programs ∧
        ((use.make call).shell.pair.isSome → use.shell.pair.isSome ∨ call.opens) ∨
      ∃ pid, use.shell.pair.isSome ∧ (use.make call).shell.pair = none ∧
        (use.make call).shell.pid = some pid ∧
        (use.make call).shell.programs = use.shell.programs ++ [pid] := by
  cases call with
  | openTerminal opened copied =>
    left
    rcases opened with _ | terminal
    · exact ⟨rfl, rfl, .inl⟩
    rcases copied with _ | _
    · exact ⟨rfl, rfl, .inl⟩
    · exact ⟨rfl, rfl, fun _ => .inr rfl⟩
  | giveInput =>
    left
    simp only [make, giveInput]
    split <;> exact ⟨rfl, rfl, .inl⟩
  | listen | resize | probe => exact .inl ⟨rfl, rfl, .inl⟩
  | start spawned copied =>
    simp only [make, start]
    split
    · exact .inl ⟨rfl, rfl, .inl⟩
    rename_i terminal hpair
    rw [hpair]
    split
    · exact .inl ⟨rfl, rfl, fun _ => .inl rfl⟩
    rename_i pid
    split
    -- A program whose output cannot be had is known although it has been killed.
    · exact .inr ⟨pid, rfl, rfl, rfl, by simp [programs]⟩
    · have hdrop (shell : LoginShell) : shell.dropChild.pair = shell.pair := by
        unfold dropChild settleFate
        split <;> rfl
      refine .inr ⟨pid, rfl, hdrop _, rfl, ?_⟩
      rw [programs, List.map_append]
      exact congrArg (· ++ [pid]) programs_dropChild
  | beginWait =>
    left
    simp only [make, takeChild]
    cases use.shell.child <;> exact ⟨rfl, rfl, .inl⟩
  | endWait pid awaited =>
    left
    simp only [make]
    split
    · cases awaited <;> exact ⟨rfl, programs_settleFate _ _, .inl⟩
    · exact ⟨rfl, rfl, .inl⟩
  | close killed =>
    left
    simp only [make, close]
    split
    · exact ⟨rfl, rfl, .inl⟩
    split
    · exact ⟨rfl, rfl, .inl⟩
    split
    · exact ⟨rfl, rfl, .inl⟩
    all_goals exact ⟨rfl, programs_settleFate _ _, .inl⟩

/-- The program that a shell knows is the one that it started last. -/
theorem pid_play (path : String) (calls : List Call) :
    (play path calls).shell.pid = (play path calls).shell.programs.getLast? := by
  induction calls using List.reverseRecOn with
  | nil => rfl
  | append_singleton calls call ih =>
    rw [play_concat]
    obtain ⟨hpid, hprograms, -⟩ | ⟨pid, -, -, hpid, hprograms⟩ := make_cases (play path calls) call
    · rw [hpid, hprograms, ih]
    · rw [hpid, hprograms, List.getLast?_concat]

/-- Each terminal that was opened serves for one start. -/
theorem length_programs_play_le (path : String) (calls : List Call) :
    (play path calls).shell.programs.length + (play path calls).shell.pair.toList.length ≤
      calls.countP Call.opens := by
  induction calls using List.reverseRecOn with
  | nil => exact Nat.le_refl 0
  | append_singleton calls call ih =>
    rw [play_concat, List.countP_append, List.countP_singleton]
    obtain ⟨-, hprograms, hpair⟩ | ⟨pid, hpair, hused, -, hprograms⟩ :=
      make_cases (play path calls) call
    · rw [hprograms]
      cases hnow : ((play path calls).make call).shell.pair with
      | none => simp only [Option.toList_none, List.length_nil]; omega
      | some terminal =>
        rcases hpair (by rw [hnow]; rfl) with hbefore | hopens
        · obtain ⟨_, hbefore⟩ := Option.isSome_iff_exists.mp hbefore
          simp only [hbefore, Option.toList_some, List.length_singleton] at ih ⊢
          omega
        · simp only [hopens, if_true, Option.toList_some, List.length_singleton]
          omega
    · obtain ⟨_, hpair⟩ := Option.isSome_iff_exists.mp hpair
      simp only [hpair, hused, hprograms, Option.toList_some, Option.toList_none,
        List.length_append, List.length_singleton, List.length_nil] at ih ⊢
      omega

/-- Where nothing is left of a shell, only opening a terminal changes that. -/
theorem isReleased_make (h : use.shell.IsReleased) (hcall : call.opens = false) :
    (use.make call).shell.IsReleased := by
  cases call with
  | openTerminal opened copied =>
    rcases opened with _ | terminal
    · exact h
    rcases copied with _ | _
    · exact h
    · cases hcall
  | giveInput =>
    have hgive : use.shell.giveInput.2 = use.shell := by rw [giveInput, h.stdin]
    simpa only [make, hgive] using h
  | listen => exact ⟨h.ended, h.pair, h.terminal, h.stdin⟩
  | start spawned copied =>
    have hstart : (use.shell.start spawned copied).2 = use.shell := by rw [start, h.pair]
    simpa only [make, hstart] using h
  | resize | probe => exact h
  | beginWait =>
    simp only [make, takeChild]
    cases use.shell.child
    · exact h
    · exact ⟨h.ended, h.pair, h.terminal, h.stdin⟩
  | endWait pid awaited =>
    simp only [make]
    split
    · cases awaited <;>
        exact ⟨ended_settleFate (by decide) h.ended, h.pair, h.terminal, h.stdin⟩
    · exact h
  | close killed => exact h.close killed

/-- What is left of a shell once a terminal has been opened. -/
theorem not_isReleased_make (hcall : call.opens) : ¬ (use.make call).shell.IsReleased := by
  intro h
  cases call with
  | openTerminal opened copied =>
    rcases opened with _ | terminal
    · cases hcall
    rcases copied with _ | _
    · cases hcall
    · cases h.pair
  | _ => cases hcall

end Use

open Use

/-- A shell that is closed for the first time is ready for it if a single terminal was opened,
on which it has been started. -/
theorem isReady_of_opens_le_one {path : String} {calls : List Call}
    (hopens : calls.countP Call.opens ≤ 1) (hpair : (play path calls).shell.pair = none)
    (hfirst : (play path calls).shell.isClosed = false) : (play path calls).shell.IsReady := by
  have hlength := length_programs_play_le path calls
  have hlast := pid_play path calls
  generalize (play path calls).shell = shell at hpair hfirst hlength hlast ⊢
  rw [LoginShell.IsReady, hfirst, if_neg Bool.false_ne_true]
  refine ⟨hpair, fun program hprogram _ => ?_⟩
  have hmem : program.1 ∈ shell.programs := List.mem_map_of_mem hprogram
  rw [hlast]
  match hall : shell.programs with
  | [] => simp [hall] at hmem
  | [pid] => simpa [hall, eq_comm] using hmem
  | _ :: _ :: _ => simp [hall] at hlength; omega

/-- A close that goes well is final if the shell is ready for it and no terminal is opened
afterwards, and only then. -/
theorem stays_released_iff {path : String} {before after : List Call} {killed : KillResult}
    (hok : ((play path before).shell.close killed).1 = .ok ()) :
    (∀ soon, soon <+: after →
        (play path (before ++ .close killed :: soon)).shell.IsReleased) ↔
      (play path before).shell.IsReady ∧ ∀ call ∈ after, ¬ call.opens := by
  have hclose := LoginShell.isReleased_close_iff (pid_play path before) hok
  have hnext (soon : List Call) (call : Call) :
      play path (before ++ .close killed :: (soon ++ [call])) =
        (play path (before ++ .close killed :: soon)).make call := by
    rw [← play_concat, List.append_assoc, List.cons_append]
  have hat : (play path (before ++ [.close killed])).shell =
      ((play path before).shell.close killed).2 := by
    rw [play_concat]
    rfl
  constructor
  · -- What a close or an opening leaves behind is seen at the next point.
    intro h
    have hready := h [] List.nil_prefix
    rw [hat, hclose] at hready
    refine ⟨hready, fun call hcall hopens => ?_⟩
    obtain ⟨soon, later, rfl⟩ := List.append_of_mem hcall
    have hopened := h (soon ++ [call]) ⟨later, by simp⟩
    rw [hnext] at hopened
    exact not_isReleased_make hopens hopened
  · rintro ⟨hready, hquiet⟩ soon hsoon
    induction soon using List.reverseRecOn with
    | nil =>
      rw [hat]
      exact hclose.mpr hready
    | append_singleton soon call ih =>
      rw [hnext]
      have hcall : call ∈ after := hsoon.subset (by simp)
      exact isReleased_make (ih ((List.prefix_append _ _).trans hsoon))
        (Bool.eq_false_iff.mpr (hquiet call hcall))

/-- What is left of a session that ends while its shell is being waited for. -/
theorem stays_released_of_session :
    let before : List Call := [.openTerminal (.ok 0) (.ok ()), .giveInput, .listen,
      .start (.ok 7) (.ok ()), .beginWait, .resize (.ok ())]
    let after : List Call := [.endWait 7 (.ok (-1)), .close .gone, .start (.ok 8) (.ok ())]
    ((play "/bin/sh" before).shell.close .sent).1 = .ok () ∧
      ∀ soon, soon <+: after →
        (play "/bin/sh" (before ++ .close .sent :: soon)).shell.IsReleased :=
  ⟨rfl, (stays_released_iff rfl).mpr
    ⟨isReady_of_opens_le_one (by decide) rfl rfl, by decide⟩⟩

/-- A shell can be started after it has been closed, on a terminal that was opened before. -/
theorem starts_after_closing :
    ¬ ∀ (path : String) (before after : List Call) (killed : KillResult),
      ((play path before).shell.close killed).1 = .ok () →
        (play path (before ++ .close killed :: after)).shell.IsReleased := by
  intro h
  have hreleased := h "/bin/sh" [.openTerminal (.ok 0) (.ok ())] [.start (.ok 7) (.ok ())] .gone rfl
  exact hreleased.ended (7, .running) (List.mem_singleton.mpr rfl) rfl

end RemoteShell.Host

import RemoteShell.Proofs.Computation
import RemoteShell.Proofs.Text.Utf8Reading
import RemoteShell.Session.State
import RemoteShell.Session.Timers
import RemoteShell.Settings.Load

/-!
# The timing of accepted settings

Settings that have been loaded have no empty period, so a session runs by them as they are
written. But a period may be longer than the clock can count: the timers of a session start
if and only if the first probe is due before the clock ends (`runs_as_written`).
-/

namespace RemoteShell.Settings

variable {source : Source} {environment : Environment} {path : Option String}
  {settings : Settings} {text : String} {now : Nat}

/-! ## Accepted settings -/

/-- No setting is unusable if and only if no period is empty. -/
theorem findUnusable?_eq_none_iff :
    settings.findUnusable? = none ↔ settings.timing.flushIntervalMs ≠ 0 ∧
      settings.timing.keepaliveIntervalSecs ≠ 0 ∧ settings.timing.drainTimeoutMs ≠ 0 := by
  unfold findUnusable?
  split_ifs <;> simp_all

/-- Settings that have been loaded are usable. -/
theorem findUnusable?_of_load (h : load source environment path = .ok settings) :
    settings.findUnusable? = none := by
  obtain ⟨read, -, hcheck⟩ := bind_eq_ok_iff.mp h
  unfold check at hcheck
  split at hcheck
  · next husable =>
    cases hcheck
    exact husable
  · cases hcheck

/-- A directory in which every file has the same text. -/
def Source.ofText (text : String) : Source := ⟨fun _ => .ok (Text.utf8 text.toList), fun _ => true⟩

/-- Usable settings of a file are loaded as they are if the environment is empty. -/
theorem load_ofText (hparse : parse? text = some settings)
    (husable : settings.findUnusable? = none) :
    load (.ofText text) (fun _ => none) none = .ok settings := by
  have htext : Text.decode? (Text.utf8 text.toList) = some text.toList :=
    Text.decode?_eq_some_iff.mpr rfl
  have hread : (Source.ofText text).settings none = .ok settings := by
    simp only [Source.settings, Source.readFile, Source.ofText, if_true, htext,
      String.ofList_toList, hparse]
  refine bind_eq_ok_iff.mpr ⟨settings, hread, ?_⟩
  change settings.check = .ok settings
  rw [check, husable]

/-! ## The timing of a session -/

/-- Usable settings are taken as they are. -/
theorem clamped_of_usable (h : settings.findUnusable? = none) :
    settings.timing.options.clamped = settings.timing.options := by
  obtain ⟨hflush, hkeepalive, hdrain⟩ := findUnusable?_eq_none_iff.mp h
  refine Options.clamped_of_le ?_ ?_ ?_ <;>
    simp only [Options.shortest, TimingSettings.options, millis, seconds, nanosPerMilli,
      nanosPerSecond] <;> omega

/-- With usable settings only the first probe decides whether the timers start. -/
theorem startTimers?_of_usable (h : settings.findUnusable? = none) (now : Nat) :
    settings.timing.options.startTimers? now =
      if now + seconds settings.timing.keepaliveIntervalSecs < seconds secondsOfClock then
        some ⟨now, now + seconds settings.timing.keepaliveIntervalSecs⟩
      else none := by
  obtain ⟨hflush, hkeepalive, -⟩ := findUnusable?_eq_none_iff.mp h
  have hperiods : ¬ (settings.timing.options.flushInterval = 0 ∨
      settings.timing.options.keepaliveInterval = 0) := by
    simp only [TimingSettings.options, millis, seconds, nanosPerMilli, nanosPerSecond]
    omega
  have hprobe : settings.timing.options.keepaliveInterval =
      seconds settings.timing.keepaliveIntervalSecs := rfl
  rw [Options.startTimers?, if_neg hperiods, later?, hprobe]
  split <;> rfl

/-- A session with settings that have been loaded runs by the periods and the threshold that
are written there: raising short periods changes nothing. Its timers start, the first for the
output at once and the other for the probes after its period, if and only if the clock, which
counts seconds in 64 bits with a sign, can count the first probe. -/
theorem runs_as_written (hload : load source environment path = .ok settings) :
    settings.timing.options.clamped =
        ⟨millis settings.timing.flushIntervalMs, seconds settings.timing.keepaliveIntervalSecs,
          settings.timing.keepaliveMaxFailures, millis settings.timing.drainTimeoutMs⟩ ∧
      ∀ size setup session,
        (Session.prepare settings.timing.options size setup).1 = .ok session →
          session.options = settings.timing.options ∧
            ∀ now, session.options.startTimers? now =
              if now + seconds settings.timing.keepaliveIntervalSecs < seconds secondsOfClock then
                some ⟨now, now + seconds settings.timing.keepaliveIntervalSecs⟩
              else none := by
  have husable := findUnusable?_of_load hload
  refine ⟨clamped_of_usable husable, fun size setup session hprepare => ?_⟩
  have hoptions : session.options = settings.timing.options := by
    rw [Session.prepare] at hprepare
    split at hprepare
    · cases hprepare
      exact clamped_of_usable husable
    · cases hprepare
  exact ⟨hoptions, fun now => by rw [hoptions, startTimers?_of_usable husable]⟩

/-- The settings of a server that nobody has configured are loaded where there is no file, and
a session that is run in the first second of the clock is probed after fifteen more. -/
theorem runs_as_written_standard :
    load ⟨fun _ => .error .notFound, fun _ => false⟩ (fun _ => none) none = .ok standard ∧
      ∃ session, (Session.prepare standard.timing.options ⟨80, 24⟩ .smooth).1 = .ok session ∧
        session.options = Options.standard ∧
        session.options.startTimers? (seconds 1) = some ⟨seconds 1, seconds 1 + seconds 15⟩ := by
  have hload : load ⟨fun _ => .error .notFound, fun _ => false⟩ (fun _ => none) none =
      .ok standard := rfl
  obtain ⟨-, hruns⟩ := runs_as_written hload
  have hprepare : ∃ session,
      (Session.prepare standard.timing.options ⟨80, 24⟩ .smooth).1 = .ok session := ⟨_, rfl⟩
  obtain ⟨session, hprepare⟩ := hprepare
  obtain ⟨hoptions, htimers⟩ := hruns _ _ session hprepare
  have hearly : seconds 1 + seconds 15 < seconds secondsOfClock := by
    simp only [seconds, nanosPerSecond, secondsOfClock]
    omega
  exact ⟨hload, session, hprepare, hoptions, (htimers (seconds 1)).trans (if_pos hearly)⟩

/-- Settings by which a shell is probed after as many seconds as the clock can count. -/
def hardlyProbed : Settings := 
  { standard with timing.keepaliveIntervalSecs := 9223372036854775807 }

/-- A file may ask for a period that no clock can count: it is loaded, but no session comes
to start its timers, not even in the first second of the clock. -/
theorem timers_overflow :
    load (.ofText "[bridge]\nkeepalive_interval_secs = 9223372036854775807\n") (fun _ => none)
        none = .ok hardlyProbed ∧
      hardlyProbed.timing.options.clamped.startTimers? (seconds 1) = none := by
  have hparse : parse? "[bridge]\nkeepalive_interval_secs = 9223372036854775807\n" =
      some hardlyProbed := by decide +kernel
  have husable : hardlyProbed.findUnusable? = none := by decide
  have hlate : ¬ seconds 1 + seconds 9223372036854775807 < seconds secondsOfClock := by
    simp only [seconds, nanosPerSecond, secondsOfClock]
    omega
  refine ⟨load_ofText hparse husable, ?_⟩
  rw [clamped_of_usable husable, startTimers?_of_usable husable]
  exact if_neg hlate

end RemoteShell.Settings

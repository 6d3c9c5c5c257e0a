import RemoteShell.Settings.Reader

/-!
# Settings one by one

Each setting stands at a place of its own in a file (`Item.key`) and takes values of one kind
(`Item.Accepts`). The settings of a document are exactly those in which each item has the value
that the document gives it, or its default where it is given none (`ofEntries?_eq_some_iff`).
A document has settings if and only if all that it gives fits (`exists_ofEntries?_iff`).

A setting that is left out of its section is read as its own default, and a section that is left
out is taken as a whole from other defaults. Nothing of that shows because an empty section is
read as the section by default (`readServer?_nil` and the like).
-/

namespace RemoteShell.Settings

/-- A single setting. -/
inductive Item where
  | listen
  | maxSessions
  | defaultRows
  | defaultCols
  | apiKey
  | defaultShell
  | defaultWorkingDir
  | flushInterval
  | keepaliveInterval
  | keepaliveMaxFailures
  | drainTimeout
  | level
  deriving DecidableEq, Repr

/-- Where a setting stands: in which section, and under which name or at which place there. -/
structure Key where
  heading : String
  name : String
  place : Nat
  deriving DecidableEq, Repr

namespace Item

/-- Where a setting stands in a file. -/
def key : Item → Key
  | listen => ⟨"server", "listen", 0⟩
  | maxSessions => ⟨"server", "max_sessions", 1⟩
  | defaultRows => ⟨"server", "default_terminal_rows", 2⟩
  | defaultCols => ⟨"server", "default_terminal_cols", 3⟩
  | apiKey => ⟨"auth", "api_key", 0⟩
  | defaultShell => ⟨"shell", "default_shell", 0⟩
  | defaultWorkingDir => ⟨"shell", "default_working_dir", 1⟩
  | flushInterval => ⟨"bridge", "flush_interval_ms", 0⟩
  | keepaliveInterval => ⟨"bridge", "keepalive_interval_secs", 1⟩
  | keepaliveMaxFailures => ⟨"bridge", "keepalive_max_failures", 2⟩
  | drainTimeout => ⟨"bridge", "drain_timeout_ms", 3⟩
  | level => ⟨"logging", "level", 0⟩

/-- The value of a setting that is given none. -/
def default : Item → Toml.Value
  | listen => .text "0.0.0.0:1337"
  | maxSessions => .integer 20
  | defaultRows => .integer 24
  | defaultCols => .integer 80
  | apiKey => .text "change-me"
  | defaultShell => .text "/bin/sh"
  | defaultWorkingDir => .text "/"
  | flushInterval => .integer 60
  | keepaliveInterval => .integer 15
  | keepaliveMaxFailures => .integer 3
  | drainTimeout => .integer 500
  | level => .text "info"

/-- The greatest number that a setting can have; none if it is a text. -/
def greatest? : Item → Option Nat
  | defaultRows | defaultCols => some greatest16
  | keepaliveMaxFailures => some greatest32
  | maxSessions | flushInterval | keepaliveInterval | drainTimeout => some greatest64
  | listen | apiKey | defaultShell | defaultWorkingDir | level => none

/-- The values that a setting can have. -/
def Accepts (item : Item) (value : Toml.Value) : Prop :=
  match item.greatest? with
  | none => ∃ text, value = .text text
  | some greatest => ∃ n : Nat, value = .integer n ∧ n ≤ greatest

end Item

/-- The section of a document with this name. One that is not there is as good as an empty
one. -/
def section? (entries : Toml.Entries) (name : String) : Option Section :=
  match entries.lookup name with
  | none => some (.named [])
  | some value => Section.ofValue? value

namespace Item

/-- What a document gives for a setting. -/
def given? (item : Item) (entries : Toml.Entries) : Option Toml.Value :=
  (section? entries item.key.heading).bind fun s => s.get? item.key.name item.key.place

/-- What a document says about a setting has the form that it should have. -/
def Fits (item : Item) (entries : Toml.Entries) : Prop :=
  (section? entries item.key.heading).isSome ∧
    ∀ value, item.given? entries = some value → item.Accepts value

end Item

/-- The value of one setting, as it would stand in a file. -/
def valueOf (settings : Settings) : Item → Toml.Value
  | .listen => .text settings.server.listen
  | .maxSessions => .integer settings.server.maxSessions
  | .defaultRows => .integer settings.server.defaultRows.toNat
  | .defaultCols => .integer settings.server.defaultCols.toNat
  | .apiKey => .text settings.auth.apiKey
  | .defaultShell => .text settings.shell.defaultShell
  | .defaultWorkingDir => .text settings.shell.defaultWorkingDir
  | .flushInterval => .integer settings.timing.flushIntervalMs
  | .keepaliveInterval => .integer settings.timing.keepaliveIntervalSecs
  | .keepaliveMaxFailures => .integer settings.timing.keepaliveMaxFailures.toNat
  | .drainTimeout => .integer settings.timing.drainTimeoutMs
  | .level => .text settings.logging.level

/-- The text of a value. -/
def textOf : Toml.Value → String
  | .text text => text
  | _ => ""

/-- The number of a value. -/
def numberOf : Toml.Value → Nat
  | .integer n => n.toNat
  | _ => 0

/-- The settings in which each item has some value. -/
def ofValues (value : Item → Toml.Value) : Settings where
  server := {
    listen := textOf (value .listen)
    maxSessions := numberOf (value .maxSessions)
    defaultRows := .ofNat (numberOf (value .defaultRows))
    defaultCols := .ofNat (numberOf (value .defaultCols)) }
  auth := { apiKey := textOf (value .apiKey) }
  shell := {
    defaultShell := textOf (value .defaultShell)
    defaultWorkingDir := textOf (value .defaultWorkingDir) }
  timing := {
    flushIntervalMs := numberOf (value .flushInterval)
    keepaliveIntervalSecs := numberOf (value .keepaliveInterval)
    keepaliveMaxFailures := .ofNat (numberOf (value .keepaliveMaxFailures))
    drainTimeoutMs := numberOf (value .drainTimeout) }
  logging := { level := textOf (value .level) }

theorem ofValues_valueOf (settings : Settings) : ofValues settings.valueOf = settings := by
  simp [ofValues, valueOf, textOf, numberOf]

/-- Settings are determined by the values of all items. -/
theorem ext_valueOf {settings other : Settings}
    (h : ∀ item, settings.valueOf item = other.valueOf item) : settings = other := by
  rw [← ofValues_valueOf settings, ← ofValues_valueOf other, funext h]

/-- There are settings for any values that the items can have. -/
theorem valueOf_ofValues {value : Item → Toml.Value}
    (h : ∀ item : Item, item.Accepts (value item))
    (item : Item) : (ofValues value).valueOf item = value item := by
  have hitem := h item
  cases item with
  | listen | apiKey | defaultShell | defaultWorkingDir | level =>
    obtain ⟨text, hvalue⟩ := hitem
    simp only [valueOf, ofValues, hvalue, textOf]
  | maxSessions | flushInterval | keepaliveInterval | drainTimeout =>
    obtain ⟨n, hvalue, -⟩ := hitem
    simp only [valueOf, ofValues, hvalue, numberOf, Int.toNat_natCast]
  | defaultRows | defaultCols =>
    obtain ⟨n, hvalue, hn⟩ := hitem
    have hn : n < 2 ^ 16 := Nat.lt_succ_of_le hn
    simp only [valueOf, ofValues, hvalue, numberOf, Int.toNat_natCast, UInt16.toNat_ofNat',
      Nat.mod_eq_of_lt hn]
  | keepaliveMaxFailures =>
    obtain ⟨n, hvalue, hn⟩ := hitem
    have hn : n < 2 ^ 32 := Nat.lt_succ_of_le hn
    simp only [valueOf, ofValues, hvalue, numberOf, Int.toNat_natCast, UInt32.toNat_ofNat',
      Nat.mod_eq_of_lt hn]

/-- All defaults are values that the settings can have. -/
theorem Item.accepts_default (item : Item) : item.Accepts item.default := by
  cases item <;> first
    | exact ⟨_, rfl⟩
    | exact ⟨_, rfl, by decide⟩

/-- The settings of a server that nobody has configured are the defaults. -/
theorem valueOf_standard (item : Item) : standard.valueOf item = item.default := by
  cases item <;> rfl

/-! ## Reading one setting -/

section Reading

variable {given : Option Toml.Value} {fallback text : String} {greatest least n : Nat}

theorem text?_eq_some_iff :
    text? fallback given = some text ↔ given.getD (.text fallback) = .text text := by
  rcases given with _ | value
  · simp [text?]
  · cases value <;> simp [text?]

theorem natural?_eq_some_iff (hleast : least ≤ greatest) :
    natural? greatest least given = some n ↔
      given.getD (.integer least) = .integer n ∧ n ≤ greatest := by
  rcases given with _ | value
  · simp only [natural?, Option.some.injEq, Option.getD_none, Toml.Value.integer.injEq,
      Int.natCast_inj]
    omega
  · cases value with
    | integer m =>
      simp only [natural?, Option.ite_none_right_eq_some, Option.some.injEq, Option.getD_some,
        Toml.Value.integer.injEq]
      omega
    | _ => simp [natural?]

end Reading

/-! ## Reading a section -/

/-- A section says that a setting has the value that it has. -/
def Section.Gives (s : Section) (settings : Settings) (item : Item) : Prop :=
  (s.get? item.key.name item.key.place).getD item.default = settings.valueOf item ∧
    item.Accepts (settings.valueOf item)

section Sections

variable {s : Section} {settings : Settings} {item : Item} {greatest : Nat}

theorem eq_text_textOf {value : Toml.Value} (hitem : item.greatest? = none)
    (h : item.Accepts value) : value = .text (textOf value) := by
  rw [Item.Accepts, hitem] at h
  obtain ⟨text, rfl⟩ := h
  rfl

theorem eq_integer_numberOf {value : Toml.Value} (hitem : item.greatest? = some greatest)
    (h : item.Accepts value) : value = .integer (numberOf value) ∧ numberOf value ≤ greatest := by
  rw [Item.Accepts, hitem] at h
  obtain ⟨n, rfl, hn⟩ := h
  exact ⟨rfl, hn⟩

/-- The value of a text is one that the setting can have. -/
theorem accepts_valueOf_of_text (hitem : item.greatest? = none) :
    item.Accepts (settings.valueOf item) := by
  rw [Item.Accepts, hitem]
  cases item <;> first
    | exact ⟨_, rfl⟩
    | cases hitem

/-- The value of a number is one that the setting can have unless it is too great. -/
theorem accepts_valueOf_iff (settings : Settings) (hitem : item.greatest? = some greatest) :
    settings.valueOf item = .integer (numberOf (settings.valueOf item)) ∧
      (item.Accepts (settings.valueOf item) ↔ numberOf (settings.valueOf item) ≤ greatest) := by
  have hvalue : settings.valueOf item = .integer (numberOf (settings.valueOf item)) := by
    cases item <;> first
      | rfl
      | cases hitem
  refine ⟨hvalue, fun h => (eq_integer_numberOf hitem h).2, fun h => ?_⟩
  rw [Item.Accepts, hitem]
  exact ⟨_, hvalue, h⟩

/-- A text is given by a section if that is what is read from it. -/
theorem Section.gives_text_iff (hitem : item.greatest? = none) :
    s.Gives settings item ↔
      text? (textOf item.default) (s.get? item.key.name item.key.place) =
        some (textOf (settings.valueOf item)) := by
  have haccepts : item.Accepts (settings.valueOf item) := accepts_valueOf_of_text hitem
  rw [Section.Gives, and_iff_left haccepts, text?_eq_some_iff,
    ← eq_text_textOf hitem item.accepts_default, ← eq_text_textOf hitem haccepts]

/-- A number is given by a section if that is what is read from it. -/
theorem Section.gives_number_iff (hitem : item.greatest? = some greatest) :
    s.Gives settings item ↔
      natural? greatest (numberOf item.default) (s.get? item.key.name item.key.place) =
        some (numberOf (settings.valueOf item)) := by
  obtain ⟨hdefault, hleast⟩ := eq_integer_numberOf hitem item.accepts_default
  obtain ⟨hvalue, haccepts⟩ := accepts_valueOf_iff settings hitem
  rw [Section.Gives, haccepts, natural?_eq_some_iff hleast, ← hdefault, ← hvalue]

/-- A number is stored as it is read if it is not too great to be stored. -/
theorem exists_natural?_iff {α : Type} {ofNat : Nat → α} {toNat : α → Nat} {least : Nat}
    {given : Option Toml.Value} {stored : α} (hleast : least ≤ greatest)
    (hof : ∀ a, ofNat (toNat a) = a) (hto : ∀ n ≤ greatest, toNat (ofNat n) = n) :
    (∃ n, natural? greatest least given = some n ∧ ofNat n = stored) ↔
      natural? greatest least given = some (toNat stored) := by
  constructor
  · rintro ⟨n, hn, rfl⟩
    rwa [hto n ((natural?_eq_some_iff hleast).mp hn).2]
  · intro h
    exact ⟨_, h, hof stored⟩

theorem exists_natural16?_iff {least : Nat} {given : Option Toml.Value} {stored : UInt16}
    (hleast : least ≤ greatest16) :
    (∃ n, natural? greatest16 least given = some n ∧ UInt16.ofNat n = stored) ↔
      natural? greatest16 least given = some stored.toNat :=
  exists_natural?_iff hleast (fun _ => UInt16.ofNat_toNat)
    fun _ hn => UInt16.toNat_ofNat_of_lt' (Nat.lt_succ_of_le hn)

theorem exists_natural32?_iff {least : Nat} {given : Option Toml.Value} {stored : UInt32}
    (hleast : least ≤ greatest32) :
    (∃ n, natural? greatest32 least given = some n ∧ UInt32.ofNat n = stored) ↔
      natural? greatest32 least given = some stored.toNat :=
  exists_natural?_iff hleast (fun _ => UInt32.ofNat_toNat)
    fun _ hn => UInt32.toNat_ofNat_of_lt' (Nat.lt_succ_of_le hn)

/-- The settings of the server are read if a section gives all of them. -/
theorem readServer?_eq_some_iff :
    readServer? s = some settings.server ↔
      s.Gives settings .listen ∧ s.Gives settings .maxSessions ∧
        s.Gives settings .defaultRows ∧ s.Gives settings .defaultCols := by
  rw [Section.gives_text_iff rfl, Section.gives_number_iff rfl, Section.gives_number_iff rfl,
    Section.gives_number_iff rfl]
  obtain ⟨⟨listen, maxSessions, rows, cols⟩, -, -, -, -⟩ := settings
  have hrows : 24 ≤ greatest16 := by decide
  have hcols : 80 ≤ greatest16 := by decide
  simp only [readServer?, Option.bind_eq_bind, Option.pure_def, Option.bind_eq_some_iff,
    Option.some.injEq, ServerSettings.mk.injEq]
  constructor
  · rintro ⟨_, hlisten, _, hmax, r, hr, c, hc, rfl, rfl, hrow, hcol⟩
    exact ⟨hlisten, hmax, (exists_natural16?_iff hrows).mp ⟨r, hr, hrow⟩,
      (exists_natural16?_iff hcols).mp ⟨c, hc, hcol⟩⟩
  · rintro ⟨hlisten, hmax, hr, hc⟩
    obtain ⟨r, hr, hrow⟩ := (exists_natural16?_iff hrows).mpr hr
    obtain ⟨c, hc, hcol⟩ := (exists_natural16?_iff hcols).mpr hc
    exact ⟨_, hlisten, _, hmax, r, hr, c, hc, rfl, rfl, hrow, hcol⟩

/-- The key is read if a section gives it. -/
theorem readAuth?_eq_some_iff :
    readAuth? s = some settings.auth ↔ s.Gives settings .apiKey := by
  rw [Section.gives_text_iff rfl]
  obtain ⟨-, ⟨apiKey⟩, -, -, -⟩ := settings
  simp only [readAuth?, Option.bind_eq_bind, Option.pure_def, Option.bind_eq_some_iff,
    Option.some.injEq, AuthSettings.mk.injEq, exists_eq_right]
  exact Iff.rfl

/-- The settings of the shell are read if a section gives both of them. -/
theorem readShell?_eq_some_iff :
    readShell? s = some settings.shell ↔
      s.Gives settings .defaultShell ∧ s.Gives settings .defaultWorkingDir := by
  rw [Section.gives_text_iff rfl, Section.gives_text_iff rfl]
  obtain ⟨-, -, ⟨defaultShell, defaultWorkingDir⟩, -, -⟩ := settings
  simp only [readShell?, Option.bind_eq_bind, Option.pure_def, Option.bind_eq_some_iff,
    Option.some.injEq, ShellSettings.mk.injEq]
  constructor
  · rintro ⟨_, hshell, _, hdir, rfl, rfl⟩
    exact ⟨hshell, hdir⟩
  · rintro ⟨hshell, hdir⟩
    exact ⟨_, hshell, _, hdir, rfl, rfl⟩

/-- The timing is read if a section gives all of it. -/
theorem readTiming?_eq_some_iff :
    readTiming? s = some settings.timing ↔
      s.Gives settings .flushInterval ∧ s.Gives settings .keepaliveInterval ∧
        s.Gives settings .keepaliveMaxFailures ∧ s.Gives settings .drainTimeout := by
  rw [Section.gives_number_iff rfl, Section.gives_number_iff rfl, Section.gives_number_iff rfl,
    Section.gives_number_iff rfl]
  obtain ⟨-, -, -, ⟨flush, keepalive, failures, drain⟩, -⟩ := settings
  have hfailures : 3 ≤ greatest32 := by decide
  simp only [readTiming?, Option.bind_eq_bind, Option.pure_def, Option.bind_eq_some_iff,
    Option.some.injEq, TimingSettings.mk.injEq]
  constructor
  · rintro ⟨_, hflush, _, hkeepalive, n, hn, _, hdrain, rfl, rfl, hfailure, rfl⟩
    exact ⟨hflush, hkeepalive, (exists_natural32?_iff hfailures).mp ⟨n, hn, hfailure⟩, hdrain⟩
  · rintro ⟨hflush, hkeepalive, hn, hdrain⟩
    obtain ⟨n, hn, hfailure⟩ := (exists_natural32?_iff hfailures).mpr hn
    exact ⟨_, hflush, _, hkeepalive, n, hn, _, hdrain, rfl, rfl, hfailure, rfl⟩

/-- The level of the log is read if a section gives it. -/
theorem readLogging?_eq_some_iff :
    readLogging? s = some settings.logging ↔ s.Gives settings .level := by
  rw [Section.gives_text_iff rfl]
  obtain ⟨-, -, -, -, ⟨level⟩⟩ := settings
  simp only [readLogging?, Option.bind_eq_bind, Option.pure_def, Option.bind_eq_some_iff,
    Option.some.injEq, LoggingSettings.mk.injEq, exists_eq_right]
  exact Iff.rfl

end Sections

/-! ## Sections that are left out -/

theorem readServer?_nil : readServer? (.named []) = some .standard := rfl

theorem readAuth?_nil : readAuth? (.named []) = some .standard := rfl

theorem readShell?_nil : readShell? (.named []) = some .standard := rfl

theorem readTiming?_nil : readTiming? (.named []) = some .standard := rfl

theorem readLogging?_nil : readLogging? (.named []) = some .standard := rfl

/-- Where an empty section is read as the section by default, it does not matter whether the
section is there. -/
theorem readSection?_eq_some_iff {α : Type} {standard read : α} {read? : Section → Option α}
    {entries : Toml.Entries} {name : String} (hnil : read? (.named []) = some standard) :
    readSection? standard read? entries name = some read ↔
      ∃ s, section? entries name = some s ∧ read? s = some read := by
  rw [readSection?, section?]
  cases entries.lookup name with
  | none => simp [hnil]
  | some value => simp [Option.bind_eq_some_iff]

/-! ## Reading a document -/

section Documents

variable {entries : Toml.Entries} {settings : Settings}

/-- Settings are read if each section is there and gives its part of them. -/
theorem ofEntries?_eq_some_iff_read :
    ofEntries? entries = some settings ↔
      (∃ s, section? entries "server" = some s ∧ readServer? s = some settings.server) ∧
      (∃ s, section? entries "auth" = some s ∧ readAuth? s = some settings.auth) ∧
      (∃ s, section? entries "shell" = some s ∧ readShell? s = some settings.shell) ∧
      (∃ s, section? entries "bridge" = some s ∧ readTiming? s = some settings.timing) ∧
      ∃ s, section? entries "logging" = some s ∧ readLogging? s = some settings.logging := by
  rw [← readSection?_eq_some_iff readServer?_nil, ← readSection?_eq_some_iff readAuth?_nil,
    ← readSection?_eq_some_iff readShell?_nil, ← readSection?_eq_some_iff readTiming?_nil,
    ← readSection?_eq_some_iff readLogging?_nil]
  obtain ⟨server, auth, shell, timing, logging⟩ := settings
  simp only [ofEntries?, Option.bind_eq_bind, Option.pure_def, Option.bind_eq_some_iff,
    Option.some.injEq, Settings.mk.injEq]
  constructor
  · rintro ⟨_, hserver, _, hauth, _, hshell, _, htiming, _, hlogging, rfl, rfl, rfl, rfl, rfl⟩
    exact ⟨hserver, hauth, hshell, htiming, hlogging⟩
  · rintro ⟨hserver, hauth, hshell, htiming, hlogging⟩
    exact ⟨_, hserver, _, hauth, _, hshell, _, htiming, _, hlogging, rfl, rfl, rfl, rfl, rfl⟩

/-- The settings of a document have been read if and only if each item is given by its section. -/
theorem ofEntries?_eq_some_iff_gives :
    ofEntries? entries = some settings ↔
      ∀ item : Item, ∃ s, section? entries item.key.heading = some s ∧ s.Gives settings item := by
  simp only [ofEntries?_eq_some_iff_read, readServer?_eq_some_iff, readAuth?_eq_some_iff,
    readShell?_eq_some_iff, readTiming?_eq_some_iff, readLogging?_eq_some_iff]
  constructor
  · rintro ⟨⟨s, hs, hlisten, hmax, hrows, hcols⟩, ⟨a, ha, hkey⟩, ⟨h, hh, hshell, hdir⟩,
      ⟨b, hb, hflush, hkeepalive, hfailures, hdrain⟩, l, hl, hlevel⟩ item
    cases item with
    | listen => exact ⟨s, hs, hlisten⟩
    | maxSessions => exact ⟨s, hs, hmax⟩
    | defaultRows => exact ⟨s, hs, hrows⟩
    | defaultCols => exact ⟨s, hs, hcols⟩
    | apiKey => exact ⟨a, ha, hkey⟩
    | defaultShell => exact ⟨h, hh, hshell⟩
    | defaultWorkingDir => exact ⟨h, hh, hdir⟩
    | flushInterval => exact ⟨b, hb, hflush⟩
    | keepaliveInterval => exact ⟨b, hb, hkeepalive⟩
    | keepaliveMaxFailures => exact ⟨b, hb, hfailures⟩
    | drainTimeout => exact ⟨b, hb, hdrain⟩
    | level => exact ⟨l, hl, hlevel⟩
  · intro h
    -- All items of a heading are given by the same section.
    have hgives (item : Item) {s : Section} (hs : section? entries item.key.heading = some s) :
        s.Gives settings item := by
      obtain ⟨s', hs', hitem⟩ := h item
      cases hs.symm.trans hs'
      exact hitem
    obtain ⟨server, hserver, -⟩ := h .listen
    obtain ⟨auth, hauth, -⟩ := h .apiKey
    obtain ⟨shell, hshell, -⟩ := h .defaultShell
    obtain ⟨bridge, hbridge, -⟩ := h .flushInterval
    obtain ⟨logging, hlogging, -⟩ := h .level
    exact ⟨⟨server, hserver, hgives .listen hserver, hgives .maxSessions hserver,
        hgives .defaultRows hserver, hgives .defaultCols hserver⟩,
      ⟨auth, hauth, hgives .apiKey hauth⟩,
      ⟨shell, hshell, hgives .defaultShell hshell, hgives .defaultWorkingDir hshell⟩,
      ⟨bridge, hbridge, hgives .flushInterval hbridge, hgives .keepaliveInterval hbridge,
        hgives .keepaliveMaxFailures hbridge, hgives .drainTimeout hbridge⟩,
      logging, hlogging, hgives .level hlogging⟩

/-- What a document makes of a setting: the value it gives, or else the default. -/
def Item.valueIn (item : Item) (entries : Toml.Entries) : Toml.Value :=
  (item.given? entries).getD item.default

/-- What a document makes of a setting can be its value if what it says fits. -/
theorem Item.Fits.accepts {item : Item} (h : item.Fits entries) :
    item.Accepts (item.valueIn entries) := by
  rw [valueIn]
  cases hgiven : item.given? entries with
  | none => exact item.accepts_default
  | some value => exact h.2 value hgiven

/-- The settings of a document have been read if and only if all that it says fits and each
item has the value that the document makes of it. -/
theorem ofEntries?_eq_some_iff :
    ofEntries? entries = some settings ↔
      ∀ item : Item, item.Fits entries ∧ settings.valueOf item = item.valueIn entries := by
  rw [ofEntries?_eq_some_iff_gives]
  refine forall_congr' fun item => ?_
  constructor
  · rintro ⟨s, hs, hvalue, haccepts⟩
    have hgiven : item.given? entries = s.get? item.key.name item.key.place := by
      rw [Item.given?, hs]
      rfl
    rw [← hgiven] at hvalue
    refine ⟨⟨by rw [hs]; rfl, fun value h => ?_⟩, hvalue.symm⟩
    rw [h, Option.getD_some] at hvalue
    rwa [hvalue]
  · rintro ⟨hfits, hvalue⟩
    obtain ⟨s, hs⟩ := Option.isSome_iff_exists.mp hfits.1
    refine ⟨s, hs, ?_, ?_⟩
    · rw [hvalue, Item.valueIn, Item.given?, hs]
      rfl
    · rw [hvalue]
      exact hfits.accepts

/-- A document has settings if and only if all that it says fits. -/
theorem exists_ofEntries?_iff :
    (∃ settings, ofEntries? entries = some settings) ↔ ∀ item : Item, item.Fits entries := by
  simp only [ofEntries?_eq_some_iff]
  constructor
  · rintro ⟨settings, h⟩ item
    exact (h item).1
  · intro h
    exact ⟨ofValues fun item => item.valueIn entries, fun item =>
      ⟨h item, valueOf_ofValues (fun item => (h item).accepts) item⟩⟩

/-- A document that says nothing has the default settings. -/
theorem ofEntries?_nil : ofEntries? [] = some standard := rfl

end Documents

end RemoteShell.Settings

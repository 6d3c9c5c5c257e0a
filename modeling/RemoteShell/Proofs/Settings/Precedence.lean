import RemoteShell.Proofs.Computation
import RemoteShell.Proofs.Settings.Items
import RemoteShell.Proofs.Settings.Timing
import RemoteShell.Settings.Load

/-!
# Which value counts

The value of a setting is that of its environment variable, if it has one whose bytes spell a
text; or else the one in the file in use; or else the default (`Item.settled`). A variable with
other bytes is passed over though it is set. Settings are loaded if and only if the file can be
read, all that it says fits, and no period is empty in the end (`load_eq_ok_iff`,
`load_eq_error_iff`).

So a setting depends on its own key and its own variable only. A change of one key
(`DifferAt`) touches no other setting, and a section may as well be written out with all of
its defaults (`ofEntries?_writeOut`).
-/

namespace RemoteShell.Toml.Entries

variable {entries : Entries} {key other : String} {value : Value}

/-- The first entry decides if it has the name, and else the others do. -/
theorem lookup_cons (name : String) (first : Value) (entries : Entries) :
    List.lookup other ((name, first) :: entries) =
      if other = name then some first else entries.lookup other := by
  rw [List.lookup_cons]
  by_cases h : other = name
  · simp [h]
  · rw [beq_false_of_ne h, if_neg h]

/-- There is an entry of a name if it is found. -/
theorem any_eq_isSome_lookup (entries : Entries) (key : String) :
    entries.any (·.1 = key) = (entries.lookup key).isSome := by
  rw [Bool.eq_iff_iff, List.any_eq_true, List.lookup_isSome_iff]
  simp only [decide_eq_true_eq, beq_iff_eq, @eq_comm _ key]

theorem lookup_replace (entries : Entries) :
    List.lookup other (entries.map fun entry => if entry.1 = key then (key, value) else entry) =
      if other = key then (entries.lookup key).map fun _ => value else entries.lookup other := by
  induction entries with
  | nil => simp
  | cons entry entries ih =>
    obtain ⟨name, old⟩ := entry
    rw [List.map_cons, lookup_cons, lookup_cons]
    by_cases hname : name = key
    · subst hname
      rw [if_pos rfl, if_pos rfl, lookup_cons, ih]
      split <;> rfl
    · rw [if_neg hname, if_neg (Ne.symm hname), lookup_cons, ih]
      by_cases hother : other = key
      · rw [if_pos hother, if_neg (fun h => hname (h.symm.trans hother)),
          if_pos hother]
      · rw [if_neg hother, if_neg hother]

/-- An entry that has been put has its new value, and no other one is touched. -/
theorem lookup_put (entries : Entries) :
    (entries.put key value).lookup other =
      if other = key then some value else entries.lookup other := by
  rw [put, any_eq_isSome_lookup]
  split
  · rename_i hfound
    obtain ⟨old, hold⟩ := Option.isSome_iff_exists.mp hfound
    rw [lookup_replace, hold, Option.map_some]
  · rename_i hnone
    rw [Option.not_isSome_iff_eq_none] at hnone
    rw [List.lookup_append, lookup_cons]
    split
    · rename_i heq
      rw [heq, hnone]
      rfl
    · exact Option.or_none

end RemoteShell.Toml.Entries

namespace RemoteShell.Settings

/-! ## The file in use -/

/-- The file that is read: the one that is named, or else the default file if it is there. -/
def Source.file? (source : Source) : Option String → Option String
  | some path => some path
  | none => if source.contains defaultFile then some defaultFile else none

/-- The text of a file. -/
def Source.text (source : Source) (file : String) : Except FileError String :=
  match source.read file with
  | .error e => .error e
  | .ok bytes =>
    match Text.decode? bytes with
    | none => .error .notText
    | some text => .ok (.ofList text)

/-- What the file in use says; nothing if there is none. -/
def Source.document? (source : Source) (path : Option String) : Option Toml.Entries :=
  match source.file? path with
  | none => some []
  | some file => (source.text file).toOption.bind Toml.parse?

/-- The file in use cannot be read, or does not say what settings are made of. -/
def Source.Refuses (source : Source) (path : Option String) (e : LoadError) : Prop :=
  ∃ file, source.file? path = some file ∧
    match source.text file with
    | .error error => e = .unreadable file error
    | .ok text => e = .malformed file ∧
        ∀ entries, Toml.parse? text = some entries → ∃ item : Item, ¬ item.Fits entries

section Files

variable {source : Source} {path : Option String} {settings : Settings} {e : LoadError}

theorem readFile_eq (source : Source) (file : String) :
    source.readFile file =
      match source.text file with
      | .error e => .error (.unreadable file e)
      | .ok text =>
        match parse? text with
        | none => .error (.malformed file)
        | some settings => .ok settings := by
  unfold Source.readFile Source.text
  cases source.read file with
  | error e => rfl
  | ok bytes =>
    dsimp only
    cases Text.decode? bytes <;> rfl

theorem settings_eq (source : Source) (path : Option String) :
    source.settings path =
      match source.file? path with
      | none => .ok standard
      | some file => source.readFile file := by
  cases path with
  | some path => rfl
  | none =>
    simp only [Source.settings, Source.file?]
    split <;> rfl

/-- The file in use has settings if and only if what it says has them. -/
theorem settings_eq_ok_iff :
    source.settings path = .ok settings ↔
      ∃ entries, source.document? path = some entries ∧ ofEntries? entries = some settings := by
  rw [settings_eq, Source.document?]
  cases source.file? path with
  | none => simp [ofEntries?_nil]
  | some file =>
    simp only [readFile_eq]
    cases source.text file with
    | error e => simp [Except.toOption]
    | ok text =>
      simp only [parse?, Except.toOption, Option.bind_eq_bind, Option.bind_some]
      cases Toml.parse? text with
      | none => simp
      | some entries =>
        cases hread : ofEntries? entries <;> simp [hread]

/-- The file in use has no settings if and only if it is refused. -/
theorem settings_eq_error_iff : source.settings path = .error e ↔ source.Refuses path e := by
  rw [settings_eq, Source.Refuses]
  cases source.file? path with
  | none => simp
  | some file =>
    simp only [readFile_eq, Option.some.injEq, exists_eq_left']
    cases source.text file with
    | error error => simp [eq_comm]
    | ok text =>
      have hparse : parse? text = (Toml.parse? text).bind ofEntries? := rfl
      have hnone : parse? text = none ↔
          ∀ entries, Toml.parse? text = some entries → ∃ item : Item, ¬ item.Fits entries := by
        rw [hparse, Option.bind_eq_none_iff]
        refine forall₂_congr fun entries _ => ?_
        rw [← Classical.not_forall, ← exists_ofEntries?_iff, ← Option.isSome_iff_exists,
          Option.not_isSome_iff_eq_none]
      dsimp only
      rw [← hnone]
      cases parse? text <;> simp [eq_comm]

end Files

/-! ## The value that counts -/

namespace Item

/-- The environment variable from which a setting is taken if it is set. -/
def exportName? : Item → Option String
  | apiKey => some "SHELLBRIDGE_API_KEY"
  | listen => some "SHELLBRIDGE_LISTEN"
  | _ => none

/-- What the environment says about a setting: the text that the bytes of its variable spell. -/
def exported? (item : Item) (environment : Environment) : Option Toml.Value :=
  (item.exportName?.bind environment.text?).map .text

/-- The value of a setting that counts: what the environment says, or else what the document
makes of it. -/
def settled (item : Item) (environment : Environment) (entries : Toml.Entries) : Toml.Value :=
  (item.exported? environment).getD (item.valueIn entries)

/-- The name of a setting together with its section. -/
def fullName (item : Item) : String := item.key.heading ++ "." ++ item.key.name

/-- The settings that are periods. -/
def periods : List Item := [flushInterval, keepaliveInterval, drainTimeout]

end Item

/-- The first period that is empty. -/
def firstEmpty? (value : Item → Toml.Value) : Option Item :=
  Item.periods.find? fun item => numberOf (value item) = 0

section Values

variable {source : Source} {environment : Environment} {path : Option String}
  {settings : Settings} {e : LoadError}

/-- A variable has a text if its bytes are those of the text. -/
theorem Environment.text?_eq_some_iff {name text : String} :
    environment.text? name = some text ↔ environment name = some (Text.utf8 text.toList) := by
  simp only [Environment.text?, Option.bind_eq_bind, Option.pure_def, Option.bind_eq_some_iff,
    Option.some.injEq, Text.decode?_eq_some_iff]
  constructor
  · rintro ⟨_, hset, chars, rfl, rfl⟩
    rw [hset, String.toList_ofList]
  · intro hset
    exact ⟨_, hset, _, rfl, String.ofList_toList⟩

/-- A variable whose bytes spell a text decides. -/
theorem Item.settled_of_set {item : Item} {name : String} {text : List Char}
    (hname : item.exportName? = some name) (hset : environment name = some (Text.utf8 text))
    (entries : Toml.Entries) : item.settled environment entries = .text (.ofList text) := by
  have htext : environment.text? name = some (String.ofList text) := by
    rw [Environment.text?_eq_some_iff, hset, String.toList_ofList]
  rw [settled, exported?, hname, Option.bind_some, htext]
  rfl

/-- Nothing but its own variable decides in place of the document. -/
theorem Item.exported?_congr {item : Item} {environment' : Environment} {name : String}
    (hrest : ∀ other, other ≠ name → environment' other = environment other)
    (hitem : item.exportName? ≠ some name) :
    item.exported? environment' = item.exported? environment := by
  rw [exported?, exported?]
  cases hvariable : item.exportName? with
  | none => rfl
  | some other =>
    have hother : other ≠ name := fun h => hitem (hvariable.trans (congrArg some h))
    simp only [Option.bind_some, Environment.text?, hrest other hother]

/-- Only what the environment says is changed by it. -/
theorem valueOf_override (settings : Settings) (environment : Environment) (item : Item) :
    (settings.override environment.text?).valueOf item =
      (item.exported? environment).getD (settings.valueOf item) := by
  cases item with
  | apiKey =>
    simp only [override, valueOf, Item.exported?, Item.exportName?, Option.bind_some]
    cases environment.text? "SHELLBRIDGE_API_KEY" <;> rfl
  | listen =>
    simp only [override, valueOf, Item.exported?, Item.exportName?, Option.bind_some]
    cases environment.text? "SHELLBRIDGE_LISTEN" <;> rfl
  | _ => rfl

/-- The setting that is refused is the first empty period. -/
theorem findUnusable?_eq (settings : Settings) :
    settings.findUnusable? = (firstEmpty? settings.valueOf).map Item.fullName := by
  simp only [findUnusable?, firstEmpty?, Item.periods, List.find?_cons, List.find?_nil, valueOf,
    numberOf, Int.toNat_natCast]
  by_cases hflush : settings.timing.flushIntervalMs = 0
  · simp [hflush, Item.fullName, Item.key]
  by_cases hkeepalive : settings.timing.keepaliveIntervalSecs = 0
  · simp [hflush, hkeepalive, Item.fullName, Item.key]
  by_cases hdrain : settings.timing.drainTimeoutMs = 0
  · simp [hflush, hkeepalive, hdrain, Item.fullName, Item.key]
  · simp [hflush, hkeepalive, hdrain]

/-- The settings of a document, as the environment leaves them, have the values that count. -/
theorem ofEntries?_override (environment : Environment) {entries : Toml.Entries} :
    (∃ read, ofEntries? entries = some read ∧ settings = read.override environment.text?) ↔
      ∀ item : Item, item.Fits entries ∧
        settings.valueOf item = item.settled environment entries := by
  constructor
  · rintro ⟨read, hread, rfl⟩ item
    obtain ⟨hfits, hvalue⟩ := ofEntries?_eq_some_iff.mp hread item
    exact ⟨hfits, by rw [valueOf_override, hvalue, Item.settled]⟩
  · intro h
    obtain ⟨read, hread⟩ := exists_ofEntries?_iff.mpr fun item => (h item).1
    refine ⟨read, hread, ext_valueOf fun item => ?_⟩
    rw [valueOf_override, (ofEntries?_eq_some_iff.mp hread item).2, (h item).2, Item.settled]

/-- Settings are loaded if and only if the file in use says what fits, they have the values that
count, and no period is empty. -/
theorem load_eq_ok_iff :
    load source environment path = .ok settings ↔
      ∃ entries, source.document? path = some entries ∧
        (∀ item : Item, item.Fits entries ∧
          settings.valueOf item = item.settled environment entries) ∧
        firstEmpty? settings.valueOf = none := by
  have hcheck (read : Settings) : read.check = .ok settings ↔
      read = settings ∧ firstEmpty? settings.valueOf = none := by
    rw [check, findUnusable?_eq]
    cases hempty : firstEmpty? read.valueOf with
    | none =>
      simp only [Option.map_none, Except.ok.injEq]
      exact ⟨fun h => ⟨h, h ▸ hempty⟩, And.left⟩
    | some item =>
      simp only [Option.map_some, reduceCtorEq, false_iff]
      rintro ⟨rfl, h⟩
      rw [hempty] at h
      cases h
  rw [load, bind_eq_ok_iff]
  simp only [hcheck, settings_eq_ok_iff, ← ofEntries?_override]
  constructor
  · rintro ⟨read, ⟨entries, hdocument, hread⟩, rfl, hempty⟩
    exact ⟨entries, hdocument, ⟨read, hread, rfl⟩, hempty⟩
  · rintro ⟨entries, hdocument, ⟨read, hread, rfl⟩, hempty⟩
    exact ⟨read, ⟨entries, hdocument, hread⟩, rfl, hempty⟩

/-- Settings are not loaded if and only if the file in use is refused or, although all that it
says fits, a period is empty in the end. -/
theorem load_eq_error_iff :
    load source environment path = .error e ↔
      source.Refuses path e ∨
        ∃ entries item, source.document? path = some entries ∧
          (∀ other : Item, other.Fits entries) ∧
          firstEmpty? (fun other => other.settled environment entries) = some item ∧
          e = .unusable item.fullName := by
  rw [load, ← settings_eq_error_iff]
  cases hsettings : source.settings path with
  | error error =>
    -- A file that is refused has no document whose items all fit.
    have hnone (entries : Toml.Entries) (hdocument : source.document? path = some entries)
        (hfits : ∀ other : Item, other.Fits entries) : False := by
      obtain ⟨read, hread⟩ := exists_ofEntries?_iff.mpr hfits
      have hok := settings_eq_ok_iff.mpr ⟨entries, hdocument, hread⟩
      cases hsettings.symm.trans hok
    constructor
    · exact .inl
    · rintro (h | ⟨entries, item, hdocument, hfits, -⟩)
      · exact h
      · exact (hnone entries hdocument hfits).elim
  | ok read =>
    obtain ⟨entries, hdocument, hread⟩ := settings_eq_ok_iff.mp hsettings
    have hvalues := (ofEntries?_override environment).mp ⟨read, hread, rfl⟩
    have hmerged : (read.override environment.text?).valueOf =
        fun item => item.settled environment entries := funext fun item => (hvalues item).2
    change check (read.override environment.text?) = .error e ↔ _
    rw [check, findUnusable?_eq, hmerged]
    constructor
    · intro h
      cases hempty : firstEmpty? (fun other => other.settled environment entries) with
      | none =>
        rw [hempty] at h
        cases h
      | some item =>
        rw [hempty] at h
        cases h
        exact .inr ⟨entries, item, hdocument, fun other => (hvalues other).1, hempty, rfl⟩
    · rintro (h | ⟨entries', item, hdocument', -, hempty, rfl⟩)
      · cases h
      · cases hdocument.symm.trans hdocument'
        rw [hempty]
        rfl

end Values

/-! ## Changing a single key -/

/-- The sections of a file that have a meaning. -/
def headings : List String := ["server", "auth", "shell", "bridge", "logging"]

theorem heading_mem_headings (item : Item) : item.key.heading ∈ headings := by
  cases item <;> simp [Item.key, headings]

/-- Two documents that differ in one entry of a section at most: the section may have it in
both, in one or in none of them. What stands under a heading that has no meaning is one entry
as a whole. -/
structure DifferAt (heading name : String) (before after : Toml.Entries) : Prop where
  other : ∀ h, h ≠ heading → after.lookup h = before.lookup h
  inside : heading ∈ headings → ∃ old new : Toml.Entries,
    some (.named old) = section? before heading ∧ some (.named new) = section? after heading ∧
    ∀ n, n ≠ name → new.lookup n = old.lookup n

section Changes

variable {heading name : String} {before after entries : Toml.Entries} {item : Item}

/-- To add, remove or change one entry of a section, or the section with it, changes nothing
else. -/
theorem differAt_put {old new : Toml.Entries}
    (hsection : section? entries heading = some (.named old)) (origin : Toml.Origin)
    (hrest : ∀ n, n ≠ name → new.lookup n = old.lookup n) :
    DifferAt heading name entries (entries.put heading (.table origin new)) where
  other h hne := by rw [Toml.Entries.lookup_put, if_neg hne]
  inside _ := by
    refine ⟨old, new, hsection.symm, ?_, hrest⟩
    rw [section?, Toml.Entries.lookup_put, if_pos rfl]
    rfl

/-- All other settings are given the same value. -/
theorem DifferAt.given?_eq (h : DifferAt heading name before after)
    (hitem : ¬ (item.key.heading = heading ∧ item.key.name = name)) :
    item.given? after = item.given? before := by
  rw [Item.given?, Item.given?]
  by_cases hheading : item.key.heading = heading
  · obtain ⟨old, new, hold, hnew, hrest⟩ := h.inside (hheading ▸ heading_mem_headings item)
    rw [hheading, ← hold, ← hnew]
    exact hrest _ fun hname => hitem ⟨hheading, hname⟩
  · rw [section?, section?, h.other _ hheading]

end Changes

/-! ## Writing a section out -/

/-- All items. -/
def Item.all : List Item :=
  [listen, maxSessions, defaultRows, defaultCols, apiKey, defaultShell, defaultWorkingDir,
    flushInterval, keepaliveInterval, keepaliveMaxFailures, drainTimeout, level]

/-- The entries of a section when all of them are written out, the defaults as well. -/
def fullSection (entries : Toml.Entries) (heading : String) : Toml.Entries :=
  (Item.all.filter (·.key.heading = heading)).map fun item =>
    (item.key.name, item.valueIn entries)

/-- A document with one of its sections written out. -/
def writeOut (entries : Toml.Entries) (heading : String) : Toml.Entries :=
  entries.put heading (.table .header (fullSection entries heading))

section WritingOut

variable {entries : Toml.Entries}

/-- A section that is written out has each of its items. -/
theorem lookup_fullSection (entries : Toml.Entries) (item : Item) :
    (fullSection entries item.key.heading).lookup item.key.name =
      some (item.valueIn entries) := by
  cases item <;> simp [fullSection, Item.all, Item.key, List.lookup_cons]

/-- What a document says once a section is written out. -/
theorem section?_writeOut (entries : Toml.Entries) (heading other : String) :
    (section? (writeOut entries heading) other) =
      if other = heading then some (.named (fullSection entries heading))
      else section? entries other := by
  rw [section?, writeOut, Toml.Entries.lookup_put]
  by_cases h : other = heading
  · rw [if_pos h, if_pos h]
    rfl
  · rw [if_neg h, if_neg h]
    rfl

/-- Writing a section out changes no setting. -/
theorem ofEntries?_writeOut (h : ∀ item : Item, item.Fits entries) (heading : String) :
    ofEntries? (writeOut entries heading) = ofEntries? entries := by
  obtain ⟨settings, hread⟩ := exists_ofEntries?_iff.mpr h
  rw [hread, ofEntries?_eq_some_iff]
  intro item
  obtain ⟨hfits, hvalue⟩ := ofEntries?_eq_some_iff.mp hread item
  by_cases hheading : item.key.heading = heading
  · subst hheading
    have hgiven : item.given? (writeOut entries item.key.heading) =
        some (item.valueIn entries) := by
      rw [Item.given?, section?_writeOut, if_pos rfl]
      exact lookup_fullSection entries item
    refine ⟨⟨by rw [section?_writeOut, if_pos rfl]; rfl, fun value hvalue => ?_⟩, ?_⟩
    · rw [hgiven, Option.some.injEq] at hvalue
      exact hvalue ▸ hfits.accepts
    · rw [hvalue, Item.valueIn, Item.valueIn, hgiven]
      rfl
  · have hother := section?_writeOut entries heading item.key.heading
    rw [if_neg hheading] at hother
    have hgiven : item.given? (writeOut entries heading) = item.given? entries := by
      rw [Item.given?, Item.given?, hother]
    refine ⟨?_, ?_⟩
    · rw [Item.Fits, hother, hgiven]
      exact hfits
    · rw [hvalue, Item.valueIn, Item.valueIn, hgiven]

end WritingOut

/-! ## Loading -/

/-- What is loaded depends on what the file in use says only. -/
theorem load_eq_of_document {source source' : Source} {path path' : Option String}
    {entries entries' : Toml.Entries} (environment : Environment)
    (hdocument : source.document? path = some entries)
    (hdocument' : source'.document? path' = some entries')
    (hfits : ∀ item : Item, item.Fits entries)
    (hread : ofEntries? entries' = ofEntries? entries) :
    load source' environment path' = load source environment path := by
  obtain ⟨read, hsettings⟩ := exists_ofEntries?_iff.mpr hfits
  rw [load, load, settings_eq_ok_iff.mpr ⟨entries, hdocument, hsettings⟩,
    settings_eq_ok_iff.mpr ⟨entries', hdocument', hread.trans hsettings⟩]

/-- Settings are loaded item by item. Each one has the value that its environment variable says,
or else the file in use, or else the default; and loading fails just if that file is refused
or a period is empty in the end. A variable that is set counts if and only if its bytes spell
a text. Whoever changes one key of a file, or one variable, changes no other setting, and
nothing is changed by writing a section out. -/
theorem loads_by_precedence (source : Source) (environment : Environment)
    (path : Option String) :
    (∀ settings, load source environment path = .ok settings ↔
      ∃ entries, source.document? path = some entries ∧
        (∀ item : Item, item.Fits entries ∧
          settings.valueOf item = item.settled environment entries) ∧
        firstEmpty? settings.valueOf = none) ∧
    (∀ e, load source environment path = .error e ↔
      source.Refuses path e ∨
        ∃ entries item, source.document? path = some entries ∧
          (∀ other : Item, other.Fits entries) ∧
          firstEmpty? (fun other => other.settled environment entries) = some item ∧
          e = .unusable item.fullName) ∧
    (∀ settings (item : Item) name bytes, load source environment path = .ok settings →
      item.exportName? = some name → environment name = some bytes →
        ((∃ text : String, settings.valueOf item = .text text ∧ Text.utf8 text.toList = bytes) ↔
          ∃ text, Text.utf8 text = bytes)) ∧
    (∀ source' environment' path' settings settings' entries entries',
      load source environment path = .ok settings →
      load source' environment' path' = .ok settings' →
      source.document? path = some entries → source'.document? path' = some entries' →
        (∀ heading name, environment' = environment → DifferAt heading name entries entries' →
          ∀ item : Item, ¬ (item.key.heading = heading ∧ item.key.name = name) →
            settings'.valueOf item = settings.valueOf item) ∧
        (∀ name, entries' = entries →
          (∀ other, other ≠ name → environment' other = environment other) →
          ∀ item : Item, item.exportName? ≠ some name →
            settings'.valueOf item = settings.valueOf item)) ∧
    ∀ source' path' entries heading,
      source.document? path = some entries →
      source'.document? path' = some (writeOut entries heading) →
      (∀ item : Item, item.Fits entries) →
        load source' environment path' = load source environment path := by
  refine ⟨fun settings => load_eq_ok_iff, fun e => load_eq_error_iff, ?_, ?_, ?_⟩
  · intro settings item name bytes hload hname hset
    obtain ⟨entries, -, hvalues, -⟩ := load_eq_ok_iff.mp hload
    constructor
    · rintro ⟨text, -, hbytes⟩
      exact ⟨_, hbytes⟩
    · rintro ⟨text, rfl⟩
      refine ⟨.ofList text, ?_, by rw [String.toList_ofList]⟩
      rw [(hvalues item).2, Item.settled_of_set hname hset]
  · intro source' environment' path' settings settings' entries entries' hload hload' hdocument
      hdocument'
    obtain ⟨_, h, hvalues, -⟩ := load_eq_ok_iff.mp hload
    cases hdocument.symm.trans h
    obtain ⟨_, h, hvalues', -⟩ := load_eq_ok_iff.mp hload'
    cases hdocument'.symm.trans h
    constructor
    · rintro heading name rfl hdiffer item hitem
      rw [(hvalues item).2, (hvalues' item).2, Item.settled, Item.settled, Item.valueIn,
        Item.valueIn, hdiffer.given?_eq hitem]
    · rintro name rfl hrest item hitem
      rw [(hvalues item).2, (hvalues' item).2, Item.settled, Item.settled,
        Item.exported?_congr hrest hitem]
  · intro source' path' entries heading hdocument hdocument' hfits
    exact load_eq_of_document environment hdocument hdocument' hfits
      (ofEntries?_writeOut hfits heading)

/-- A file with a single key changes that setting, and leaves the others at their defaults. -/
theorem loads_by_precedence_single_key :
    let noFile : Source := ⟨fun _ => .error .notFound, fun _ => false⟩
    let text := "[bridge]\nkeepalive_max_failures = 5\n"
    let changed : Settings := { standard with timing.keepaliveMaxFailures := 5 }
    load noFile (fun _ => none) none = .ok standard ∧
      load (.ofText text) (fun _ => none) none = .ok changed ∧
      ∀ item : Item, ¬ (item.key.heading = "bridge" ∧ item.key.name = "keepalive_max_failures") →
        changed.valueOf item = item.default := by
  have hparse : Toml.parse? "[bridge]\nkeepalive_max_failures = 5\n" =
      some [("bridge", .table .header [("keepalive_max_failures", .integer 5)])] := by
    with_unfolding_all rfl
  intro noFile text changed
  have hstandard : load noFile (fun _ => none) none = .ok standard := rfl
  have hchanged : load (.ofText text) (fun _ => none) none = .ok changed :=
    load_ofText (by decide +kernel) rfl
  have hdocument : (Source.ofText text).document? none =
      some [("bridge", .table .header [("keepalive_max_failures", .integer 5)])] := by
    have htext : Text.decode? (Text.utf8 text.toList) = some text.toList :=
      Text.decode?_eq_some_iff.mpr rfl
    simp only [Source.document?, Source.file?, Source.text, Source.ofText, if_true, htext,
      String.ofList_toList, Except.toOption, Option.bind_some]
    exact hparse
  have hdiffer : DifferAt "bridge" "keepalive_max_failures" []
      [("bridge", .table .header [("keepalive_max_failures", .integer 5)])] := by
    have hsection : section? [] "bridge" = some (.named []) := rfl
    have hnew (n : String) (hne : n ≠ "keepalive_max_failures") :
        List.lookup n [("keepalive_max_failures", Toml.Value.integer 5)] = List.lookup n [] := by
      rw [Toml.Entries.lookup_cons, if_neg hne]
    simpa [Toml.Entries.put] using differAt_put hsection .header hnew
  obtain ⟨-, -, -, hframe, -⟩ := loads_by_precedence noFile (fun _ => none) none
  refine ⟨hstandard, hchanged, fun item hitem => ?_⟩
  have hsame := (hframe _ _ _ _ _ _ _ hstandard hchanged rfl hdocument).1 _ _ rfl hdiffer
  rw [hsame item hitem, valueOf_standard]

/-- The bytes of `cl` and 233, which begins a longer sequence, spell no text. A key of these bytes
is set in the environment, but the key of the file counts. -/
theorem key_without_text_is_passed_over :
    let source : Source := .ofText "[auth]\napi_key = \"\"\n"
    let environment : Environment := fun name =>
      if name = "SHELLBRIDGE_API_KEY" then some [99, 108, 233] else none
    environment "SHELLBRIDGE_API_KEY" = some [99, 108, 233] ∧
      load source environment none = .ok { standard with auth := ⟨""⟩ } ∧
      Text.utf8 "".toList ≠ [99, 108, 233] := by
  intro source environment
  have hunspelled : Text.decode? [99, 108, 233] = none := by decide +kernel
  have hnone : environment.text? = fun _ => none := by
    funext name
    by_cases hname : name = "SHELLBRIDGE_API_KEY" <;>
      simp [Environment.text?, environment, hname, hunspelled]
  have hparse : parse? "[auth]\napi_key = \"\"\n" = some { standard with auth := ⟨""⟩ } := by
    decide +kernel
  have hload : load source (fun _ => none) none = .ok { standard with auth := ⟨""⟩ } :=
    load_ofText hparse rfl
  refine ⟨rfl, ?_, by simp [Text.utf8]⟩
  rw [← hload, load, load, hnone]
  rfl

end RemoteShell.Settings

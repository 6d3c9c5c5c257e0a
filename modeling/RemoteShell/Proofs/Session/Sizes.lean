import RemoteShell.Proofs.Session.Requests

/-!
# The sizes that a shell is told

A shell is told a size when its terminal is opened, once and with the setup, and then
whenever the relay carries out a frame that asks for one. A size from a frame is proper and
is what the frame says, digit by digit (`decode_eq_resize_iff`); the first one is taken over
unseen (`sizes_of_play?`).
-/

namespace RemoteShell

namespace Control

variable {value : Int64} {n : UInt16} {frame : Frame} {size : TerminalSize} {text : String}

/-! ## Sizes in frames -/

/-- A dimension is read as the number it is, unless that is not positive or too great. -/
theorem dimension?_eq_some_iff :
    dimension? value = some n ↔ value.toInt = n.toNat ∧ 1 ≤ n.toNat := by
  have hn := n.toNat_lt
  unfold dimension?
  constructor
  · intro h
    split at h
    · next hrange =>
      cases h
      rw [UInt16.toNat_ofNat']
      omega
    · cases h
  · rintro ⟨hvalue, hpositive⟩
    rw [if_pos (by omega), hvalue, Int.toNat_natCast, UInt16.ofNat_toNat]

/-- The numbers of a frame are those of a size, and the size is proper. -/
structure Frame.AsksFor (frame : Frame) (size : TerminalSize) : Prop where
  kind : frame.kind = "resize"
  cols : frame.cols.toInt = size.cols.toNat
  rows : frame.rows.toInt = size.rows.toNat
  proper : size.IsProper

theorem size?_eq_some_iff :
    frame.size? = some size ↔ frame.cols.toInt = size.cols.toNat ∧
      frame.rows.toInt = size.rows.toNat ∧ size.IsProper := by
  simp only [Frame.size?, Option.bind_eq_bind, Option.bind_eq_some_iff, Option.pure_def,
    Option.some.injEq, dimension?_eq_some_iff]
  constructor
  · rintro ⟨cols, ⟨hcols, hwide⟩, rows, ⟨hrows, hhigh⟩, rfl⟩
    exact ⟨hcols, hrows, hwide, hhigh⟩
  · rintro ⟨hcols, hrows, hwide, hhigh⟩
    exact ⟨size.cols, ⟨hcols, hwide⟩, size.rows, ⟨hrows, hhigh⟩, rfl⟩

theorem command_eq_resize_iff : frame.command = .ok (.resize size) ↔ frame.AsksFor size := by
  have hasks : frame.AsksFor size ↔ frame.kind = "resize" ∧ frame.size? = some size := by
    rw [size?_eq_some_iff]
    exact ⟨fun ⟨hkind, hcols, hrows, hproper⟩ => ⟨hkind, hcols, hrows, hproper⟩,
      fun ⟨hkind, hcols, hrows, hproper⟩ => ⟨hkind, hcols, hrows, hproper⟩⟩
  rw [hasks, Frame.command]
  split
  · next hkind => cases frame.size? <;> simp [hkind]
  · next hkind => split <;> simp [hkind]
  · next hkind => simp [hkind]
  · next hresize _ _ => exact ⟨nofun, fun h => absurd h.1 hresize⟩

/-- A text asks for a size if and only if it is a frame with the numbers of a proper size. -/
theorem decode_eq_resize_iff :
    decode text = .ok (.resize size) ↔
      ∃ frame, Frame.read text = .ok frame ∧ frame.AsksFor size := by
  unfold decode
  cases hread : Frame.read text with
  | error e => simp
  | ok frame => simp [command_eq_resize_iff]

end Control

namespace Session

variable {s s' t : Session} {move : Move} {moves : List Move} {shell : Shell} {size : TerminalSize}

/-! ## Sizes from the relay -/

/-- A size is asked for by a text that arrives. -/
theorem exists_frame_of_mem_requests {frames : List Arrival}
    (h : .resize size ∈ requests frames) :
    ∃ text frame, .text text ∈ frames ∧ Control.Frame.read text = .ok frame ∧
      frame.AsksFor size := by
  induction frames with
  | nil => cases h
  | cons arrival later ih =>
    rw [requests] at h
    split at h
    · cases h
    rcases List.mem_append.mp h with hfirst | hlater
    · cases arrival with
      | text text =>
        have hdecode : Control.decode text = .ok (.resize size) := by
          rw [Option.mem_toList, Arrival.request?] at hfirst
          split at hfirst <;> simp_all
        obtain ⟨frame, hread, hasks⟩ := Control.decode_eq_resize_iff.mp hdecode
        exact ⟨text, frame, List.mem_cons_self, hread, hasks⟩
      | _ => simp [Arrival.request?] at hfirst
    · obtain ⟨text, frame, hmem, hframe⟩ := ih hlater
      exact ⟨text, frame, List.mem_cons_of_mem _ hmem, hframe⟩

/-- A request for which the shell has been told a size is a request for that size. -/
theorem eq_resize_of_done {request : ShellRequest} {events : List ShellEvent}
    (h : request.Done events) (hmem : .resized size ∈ events) : request = .resize size := by
  cases h <;> simp_all

theorem eq_resize_of_late {request : ShellRequest} {events : List ShellEvent}
    (h : request.Late events) (hmem : .resized size ∈ events) : request = .resize size := by
  cases h <;> simp_all

theorem eq_resize_of_inHand {relay : Relay} {entries : List (ShellRequest × List ShellEvent)}
    (h : relay.InHand entries) {entry : ShellRequest × List ShellEvent} (hentry : entry ∈ entries)
    (hmem : .resized size ∈ entry.2) : entry.1 = .resize size := by
  induction h with
  | cut _ ih => exact ih hentry
  | _ => simp_all

/-- A shell that is told a size while the session runs is told what a frame has asked for. -/
theorem exists_frame_of_resized {options : Options}
    (hplay : (ofShell options shell).play? moves = some t) (hmem : .resized size ∈ t.shell.log)
    (hfresh : .resized size ∉ shell.log) :
    ∃ text frame, .text text ∈ arrivals moves ∧ Control.Frame.read text = .ok frame ∧
      frame.AsksFor size := by
  obtain ⟨done, late, current, later, hasked, hseen, hdone, hlate, -, hcurrent, -⟩ :=
    requests_of_play? hplay
  have hrelayed : .resized size ∈ relayed t.shell.log := List.mem_filter.mpr ⟨hmem, rfl⟩
  rw [hseen, List.mem_append, List.mem_flatMap] at hrelayed
  rcases hrelayed with hold | ⟨entry, hentry, hsize⟩
  · exact absurd (List.mem_filter.mp hold).1 hfresh
  have hrequest : entry.1 = .resize size := by
    rw [List.mem_append, List.mem_append] at hentry
    rcases hentry with (hentry | hentry) | hentry
    · exact eq_resize_of_done (hdone entry hentry) hsize
    · exact eq_resize_of_late (hlate entry hentry) hsize
    · exact eq_resize_of_inHand hcurrent hentry hsize
  have hmemRequests : .resize size ∈ requests (arrivals moves) := by
    rw [hasked, ← hrequest]
    exact List.mem_append_left _ (List.mem_map_of_mem hentry)
  exact exists_frame_of_mem_requests hmemRequests

/-! ## The first size -/

/-- The setup tells the shell one size, with the terminal. -/
theorem exists_log_perform (setup : Setup) (size : TerminalSize) :
    ∃ later, (setup.perform size).2.log = .openedTerminal size :: later ∧
      later ⊆ [.gaveInput, .listened, .started, .closed] := by
  unfold Setup.perform
  split
  · exact ⟨_, rfl, by simp⟩
  · split
    · exact ⟨_, rfl, by simp⟩
    · split <;> exact ⟨_, rfl, by simp⟩

theorem openedTerminal_mem_perform_iff {setup : Setup} {told : TerminalSize} :
    .openedTerminal told ∈ (setup.perform size).2.log ↔ told = size := by
  obtain ⟨later, hlog, hlater⟩ := exists_log_perform setup size
  have hnot : .openedTerminal told ∉ later := fun hmem => by simpa using hlater hmem
  simp [hlog, hnot]

theorem resized_not_mem_perform {setup : Setup} {told : TerminalSize} :
    .resized told ∉ (setup.perform size).2.log := by
  obtain ⟨later, hlog, hlater⟩ := exists_log_perform setup size
  have hnot : .resized told ∉ later := fun hmem => by simpa using hlater hmem
  simp [hlog, hnot]

/-- No move opens the terminal once more. -/
theorem openedTerminal_mem_iff_of_change (h : Change s move s') :
    .openedTerminal size ∈ s'.shell.log ↔ .openedTerminal size ∈ s.shell.log := by
  cases h with
  | relayFeeds _ _ hfeed => cases fed_of_feed hfeed <;> simp [Shell.record]
  | relayResizes | stdinShuts => simp [Shell.record]
  | shellChanges | watchdogProbes => simp
  | _ => exact Iff.rfl

theorem openedTerminal_mem_iff_of_play? (hplay : s.play? moves = some t) :
    .openedTerminal size ∈ t.shell.log ↔ .openedTerminal size ∈ s.shell.log :=
  play?_invariant
    (P := fun u => .openedTerminal size ∈ u.shell.log ↔ .openedTerminal size ∈ s.shell.log)
    (fun _ _ _ hmake hu => (openedTerminal_mem_iff_of_change (change_of_make? hmake)).trans hu)
    hplay Iff.rfl

/-! ## All sizes of a session -/

/-- A shell as a session may leave it: as it has been set up, well or not, or after some
moves of the session. -/
inductive Leaves (options : Options) (size : TerminalSize) (setup : Setup) :
    List Move → Shell → Prop
  | prepared : Leaves options size setup [] (prepare options size setup).2
  | played {s t : Session} {moves : List Move} (hprepare : (prepare options size setup).1 = .ok s)
      (hplay : s.play? moves = some t) : Leaves options size setup moves t.shell

/-- The terminal of a session is opened with the size that the session has been given, and
each later size is proper and one that a frame has asked for. -/
theorem sizes_of_leaves {options : Options} {setup : Setup} {told : TerminalSize}
    (h : Leaves options size setup moves shell) :
    (.openedTerminal told ∈ shell.log ↔ told = size) ∧
      (.resized told ∈ shell.log → ∃ text frame, .text text ∈ arrivals moves ∧
        Control.Frame.read text = .ok frame ∧ frame.AsksFor told) := by
  have hshell : (prepare options size setup).2 = (setup.perform size).2 := by
    unfold prepare
    split <;> simp [*]
  cases h with
  | prepared =>
    rw [hshell]
    exact ⟨openedTerminal_mem_perform_iff, fun hmem => absurd hmem resized_not_mem_perform⟩
  | @played s t _ hprepare hplay =>
    have hs : s = ofShell options (setup.perform size).2 := by
      unfold prepare at hprepare
      split at hprepare
      · cases hprepare
        simp [*]
      · cases hprepare
    subst hs
    refine ⟨(openedTerminal_mem_iff_of_play? hplay).trans openedTerminal_mem_perform_iff, ?_⟩
    exact fun hmem => exists_frame_of_resized hplay hmem resized_not_mem_perform

end Session

end RemoteShell

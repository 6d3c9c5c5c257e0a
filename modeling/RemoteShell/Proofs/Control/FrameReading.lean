import RemoteShell.Proofs.Control.ObjectReading

/-!
# Reading frames

The reader of frames takes exactly the texts of the grammar and finds the frame that they
name (`read_eq_ok_iff`). The list form knows at each place which item is due, so that its
reader is a chain of four (`readsTail_orClose`); for the object form see `ObjectReading`.
-/

namespace RemoteShell.Control

open Json

variable {input rest chars : List Char} {frame : Frame} {members : List Member}

/-! ## The list form -/

/-- Ends the list after the items of a frame. -/
def closeFrame (frame : Frame) (input : List Char) : Except Error (Frame × List Char) := do
  return (frame, ← closeList input)

/-- Ends the list here or goes on with the next item. -/
def orClose (frame : Frame) (next : List Char → Except Error (Frame × List Char))
    (input : List Char) : Except Error (Frame × List Char) := do
  let some input ← nextItem false input
    | closeFrame frame input
  next input

/-- Reads an item and what follows it. -/
def readItem {α : Type} (read : List Char → Except Error (α × List Char))
    (later : α → List Char → Except Error (Frame × List Char)) (input : List Char) :
    Except Error (Frame × List Char) := do
  let (value, rest) ← read input
  later value rest

/-- The reader of a list after the opening bracket, from the first item on. -/
def readFirstItem : List Char → Except Error (Frame × List Char) :=
  readItem readTextValue fun kind => orClose ⟨kind, 0, 0, ""⟩ <|
    readItem readIntegerValue fun cols => orClose ⟨kind, cols, 0, ""⟩ <|
      readItem readIntegerValue fun rows => orClose ⟨kind, cols, rows, ""⟩ <|
        readItem readTextValue fun cmd => closeFrame ⟨kind, cols, rows, cmd⟩

theorem readItems_eq (input : List Char) :
    readItems input = (do
      let some input ← nextItem true input
        | throw (.wrongLength 0 (frameName ++ " with 4 elements"))
      readFirstItem input) := rfl

theorem Member.HasValue.exists_cons {member : Member} (h : member.HasValue chars) :
    ∃ c later, chars = c :: later ∧ isBlank c = false ∧ isDelimiter c = false := by
  cases h with
  | kind hliteral | cmd hliteral =>
    cases hliteral with
    | mk => exact ⟨_, _, rfl, rfl, rfl⟩
  | cols hliteral | rows hliteral =>
    cases hliteral with
    | natural hdigits =>
      obtain ⟨c, later, rfl, hc⟩ := hdigits.exists_cons
      exact ⟨c, later, rfl, isBlank_of_isDigit hc, isDelimiter_of_isDigit hc⟩
    | negative => exact ⟨_, _, rfl, rfl, rfl⟩
  | other _ hliteral => exact hliteral.exists_cons

theorem closeList_eq_ok_iff :
    closeList input = .ok rest ↔ ∃ after, IsBlanks after ∧ input = after ++ ']' :: rest := by
  constructor
  · intro h
    unfold closeList at h
    split at h
    · cases h
    · rename_i c left hskip
      obtain ⟨-, after, hafter, rfl⟩ := skipBlanks_eq_cons_iff.mp hskip
      split at h
      · rename_i hc
        cases h
        exact ⟨after, hafter, by rw [hc]⟩
      · split at h
        · split at h <;> cases h
        · cases h
  · rintro ⟨after, hafter, rfl⟩
    rw [closeList, skipBlanks_append hafter, skipBlanks_cons rfl]
    rfl

theorem closeFrame_eq_ok_iff {kept : Frame} :
    closeFrame kept input = .ok (frame, rest) ↔
      frame = kept ∧ ∃ after, IsBlanks after ∧ input = after ++ ']' :: rest := by
  rw [← closeList_eq_ok_iff, closeFrame, bind_eq_ok_iff]
  constructor
  · rintro ⟨left, hclose, h⟩
    cases h
    exact ⟨rfl, hclose⟩
  · rintro ⟨rfl, hclose⟩
    exact ⟨rest, hclose, rfl⟩

/-- The first item stands behind blanks. -/
theorem of_nextItem_true {item : List Char} (h : nextItem true input = .ok (some item)) :
    ∃ before, IsBlanks before ∧ input = before ++ item := by
  unfold nextItem at h
  split at h
  · cases h
  · rename_i c left hskip
    obtain ⟨-, before, hbefore, rfl⟩ := skipBlanks_eq_cons_iff.mp hskip
    split at h
    · cases h
    · cases h
      exact ⟨before, hbefore, rfl⟩

/-- A later item stands behind a comma. -/
theorem of_nextItem_false {item : List Char} (h : nextItem false input = .ok (some item)) :
    ∃ after before, IsBlanks after ∧ IsBlanks before ∧
      input = after ++ ',' :: (before ++ item) := by
  unfold nextItem at h
  split at h
  · cases h
  · rename_i c left hskip
    obtain ⟨-, after, hafter, rfl⟩ := skipBlanks_eq_cons_iff.mp hskip
    split at h
    · cases h
    · rw [if_neg Bool.false_ne_true] at h
      split at h
      · rename_i hc
        split at h
        · cases h
        · rename_i d later hlater
          obtain ⟨-, before, hbefore, rfl⟩ := skipBlanks_eq_cons_iff.mp hlater
          split at h
          · cases h
          · cases h
            exact ⟨after, before, hafter, hbefore, by rw [hc]⟩
      · cases h

theorem nextItem_true_append {before item : List Char} {member : Member}
    (hbefore : IsBlanks before) (hitem : member.HasValue item) (rest : List Char) :
    nextItem true (before ++ (item ++ rest)) = .ok (some (item ++ rest)) := by
  obtain ⟨c, later, rfl, hblank, hdelimiter⟩ := hitem.exists_cons
  have hbracket : c ≠ ']' := by
    rintro rfl
    cases hdelimiter
  simp [nextItem, skipBlanks_append hbefore, skipBlanks_cons hblank, hbracket]

theorem nextItem_false_append {after before item : List Char} {member : Member}
    (hafter : IsBlanks after) (hbefore : IsBlanks before) (hitem : member.HasValue item)
    (rest : List Char) :
    nextItem false (after ++ ',' :: (before ++ (item ++ rest))) = .ok (some (item ++ rest)) := by
  obtain ⟨c, later, rfl, hblank, hdelimiter⟩ := hitem.exists_cons
  have hbracket : c ≠ ']' := by
    rintro rfl
    cases hdelimiter
  have hcomma : skipBlanks (',' :: (before ++ (c :: later ++ rest))) =
      ',' :: (before ++ (c :: later ++ rest)) := skipBlanks_cons rfl _
  simp only [nextItem, skipBlanks_append hafter, hcomma, skipBlanks_append hbefore]
  simp [skipBlanks_cons hblank, hbracket]

theorem nextItem_close {after : List Char} (hafter : IsBlanks after) (isFirst : Bool)
    (rest : List Char) : nextItem isFirst (after ++ ']' :: rest) = .ok none := by
  rw [nextItem, skipBlanks_append hafter, skipBlanks_cons rfl]
  rfl

/-- What follows an item, up to the closing bracket, is read with a frame if and only if its
items go with that frame. -/
def ReadsTail (read : List Char → Except Error (Frame × List Char))
    (Fits : List Member → Frame → Prop) : Prop :=
  ∀ {input rest frame}, read input = .ok (frame, rest) ↔
    ∃ items tail, IsTail Member.HasValue items tail ∧ input = tail ++ ']' :: rest ∧
      Fits items frame

/-- There are no further items, so that the frame is the one that has been kept. -/
def IsLast (kept : Frame) (items : List Member) (frame : Frame) : Prop :=
  items = [] ∧ frame = kept

/-- There are no further items, or another one and what goes with its value. -/
def IsLastOr {α : Type} (kept : Frame) (make : α → Member)
    (Fits : α → List Member → Frame → Prop) (items : List Member) (frame : Frame) : Prop :=
  IsLast kept items frame ∨ ∃ value more, items = make value :: more ∧ Fits value more frame

theorem readsTail_closeFrame (kept : Frame) : ReadsTail (closeFrame kept) (IsLast kept) := by
  intro input rest frame
  rw [closeFrame_eq_ok_iff]
  constructor
  · rintro ⟨hframe, after, hafter, rfl⟩
    exact ⟨[], after, .nil hafter, rfl, rfl, hframe⟩
  · rintro ⟨_, _, htail, rfl, rfl, hframe⟩
    cases htail with
    | nil hafter => exact ⟨hframe, _, hafter, rfl⟩

section item

variable {α : Type} {read : List Char → Except Error (α × List Char)}
  {IsLiteral : α → List Char → Prop} (make : α → Member)
  {later : α → List Char → Except Error (Frame × List Char)}
  {Fits : α → List Member → Frame → Prop}

/-- An item is read with the value that it has. -/
theorem readItem_eq_ok_iff (hreads : Reads read IsLiteral)
    (hmake : ∀ {value literal}, (make value).HasValue literal ↔ IsLiteral value literal)
    (hlater : ∀ value, ReadsTail (later value) (Fits value)) :
    readItem read later input = .ok (frame, rest) ↔
      ∃ value items before chars tail, IsBlanks before ∧ (make value).HasValue chars ∧
        IsTail Member.HasValue items tail ∧ input = before ++ (chars ++ (tail ++ ']' :: rest)) ∧
        Fits value items frame := by
  rw [readItem, bind_eq_ok_iff]
  constructor
  · rintro ⟨⟨value, left⟩, hread, h⟩
    obtain ⟨before, literal, hbefore, hliteral, rfl⟩ := hreads.sound hread
    obtain ⟨items, tail, htail, rfl, hfits⟩ := (hlater value).mp h
    exact ⟨value, items, before, literal, tail, hbefore, hmake.mpr hliteral, htail, rfl, hfits⟩
  · rintro ⟨value, items, before, chars, tail, hbefore, hvalue, htail, rfl, hfits⟩
    have hends : EndsNumber (tail ++ ']' :: rest) := htail.endsNumber (by decide) rest
    have hread := hreads.complete hbefore (hmake.mp hvalue) hends
    exact ⟨(value, _), hread, (hlater value).mpr ⟨items, tail, htail, rfl, hfits⟩⟩

/-- Either the list ends, or an item follows with what comes after it. -/
theorem readsTail_orClose (hreads : Reads read IsLiteral)
    (hmake : ∀ {value literal}, (make value).HasValue literal ↔ IsLiteral value literal)
    (hlater : ∀ value, ReadsTail (later value) (Fits value)) (kept : Frame) :
    ReadsTail (orClose kept (readItem read later)) (IsLastOr kept make Fits) := by
  intro input rest frame
  rw [orClose, bind_eq_ok_iff]
  constructor
  · rintro ⟨next, hnext, h⟩
    cases next with
    | none =>
      obtain ⟨items, tail, htail, hinput, hend⟩ := (readsTail_closeFrame kept).mp h
      exact ⟨items, tail, htail, hinput, .inl hend⟩
    | some item =>
      obtain ⟨after, start, hafter, hstart, rfl⟩ := of_nextItem_false hnext
      obtain ⟨value, more, before, chars, tail, hbefore, hvalue, htail, rfl, hfits⟩ :=
        (readItem_eq_ok_iff make hreads hmake hlater).mp h
      exact ⟨_, _, .cons hafter (hstart.append hbefore) hvalue htail, by simp,
        .inr ⟨value, more, rfl, hfits⟩⟩
  · rintro ⟨items, tail, htail, rfl, hend | ⟨value, more, rfl, hfits⟩⟩
    · refine ⟨none, ?_, (readsTail_closeFrame kept).mpr ⟨items, tail, htail, rfl, hend⟩⟩
      obtain ⟨rfl, -⟩ := hend
      cases htail with
      | nil hafter => exact nextItem_close hafter false rest
    · cases htail with
      | @cons _ _ after before chars tail hafter hbefore hvalue htail =>
        have hnext := nextItem_false_append hafter hbefore hvalue (tail ++ ']' :: rest)
        have hread : readItem read later (chars ++ (tail ++ ']' :: rest)) = .ok (frame, rest) :=
          (readItem_eq_ok_iff make hreads hmake hlater).mpr
            ⟨value, more, [], chars, tail, isBlanks_nil, hvalue, htail, rfl, hfits⟩
        exact ⟨some _, by simpa using hnext, hread⟩

end item

/-- The items behind the type of a frame: its size and its payload, as far as they go. -/
def FitsKind (kind : String) : List Member → Frame → Prop :=
  IsLastOr ⟨kind, 0, 0, ""⟩ .cols fun cols =>
    IsLastOr ⟨kind, cols, 0, ""⟩ .rows fun rows =>
      IsLastOr ⟨kind, cols, rows, ""⟩ .cmd fun cmd => IsLast ⟨kind, cols, rows, cmd⟩

theorem eq_of_isGiven_nil {α : Type} {default value : α} (h : IsGiven default value []) :
    value = default := by
  rcases h with hgiven | ⟨-, hvalue⟩
  · cases hgiven
  · exact hvalue

/-- The items in their order are the members of a frame up to one of them. -/
theorem isPrefix_and_isNamedBy_iff :
    members <+: [.kind frame.kind, .cols frame.cols, .rows frame.rows, .cmd frame.cmd] ∧
        frame.IsNamedBy members ↔
      ∃ kind items, members = .kind kind :: items ∧ FitsKind kind items frame := by
  constructor
  · obtain ⟨kind, cols, rows, cmd⟩ := frame
    rintro ⟨horder, hnamed⟩
    obtain ⟨hkind, hcols, hrows, hcmd⟩ := hnamed
    simp only [List.prefix_cons_iff, List.prefix_nil] at horder
    rcases horder with rfl | ⟨_, rfl, rfl | ⟨_, rfl, rfl | ⟨_, rfl, rfl | ⟨_, rfl, rfl⟩⟩⟩⟩
    · cases hkind
    · obtain rfl := eq_of_isGiven_nil hcols
      obtain rfl := eq_of_isGiven_nil hrows
      obtain rfl := eq_of_isGiven_nil hcmd
      exact ⟨kind, [], rfl, .inl ⟨rfl, rfl⟩⟩
    · obtain rfl := eq_of_isGiven_nil hrows
      obtain rfl := eq_of_isGiven_nil hcmd
      exact ⟨kind, _, rfl, .inr ⟨cols, [], rfl, .inl ⟨rfl, rfl⟩⟩⟩
    · obtain rfl := eq_of_isGiven_nil hcmd
      exact ⟨kind, _, rfl, .inr ⟨cols, _, rfl, .inr ⟨rows, [], rfl, .inl ⟨rfl, rfl⟩⟩⟩⟩
    · exact ⟨kind, _, rfl, .inr ⟨cols, _, rfl, .inr ⟨rows, _, rfl, .inr ⟨cmd, [], rfl, rfl, rfl⟩⟩⟩⟩
  · rintro ⟨kind, items, rfl, ⟨rfl, rfl⟩ | ⟨cols, _, rfl, ⟨rfl, rfl⟩ |
      ⟨rows, _, rfl, ⟨rfl, rfl⟩ | ⟨cmd, _, rfl, rfl, rfl⟩⟩⟩⟩
    · exact ⟨by simp, rfl, .inr ⟨rfl, rfl⟩, .inr ⟨rfl, rfl⟩, .inr ⟨rfl, rfl⟩⟩
    · exact ⟨by simp, rfl, .inl rfl, .inr ⟨rfl, rfl⟩, .inr ⟨rfl, rfl⟩⟩
    · exact ⟨by simp, rfl, .inl rfl, .inl rfl, .inr ⟨rfl, rfl⟩⟩
    · exact ⟨by simp, rfl, .inl rfl, .inl rfl, .inl rfl⟩

/-- What the value of a member has to be. -/
theorem Member.hasValue_iff {member : Member} :
    member.HasValue chars ↔ match member with
      | .kind value | .cmd value => IsQuoted value chars
      | .cols value | .rows value => IsInteger value chars
      | .other key => key ∉ ["type", "cols", "rows", "cmd"] ∧ IsValue chars := by
  constructor
  · intro h
    cases h with
    | kind hliteral | cols hliteral | rows hliteral | cmd hliteral => exact hliteral
    | other hkey hliteral => exact ⟨hkey, hliteral⟩
  · intro h
    cases member with
    | kind => exact .kind h
    | cols => exact .cols h
    | rows => exact .rows h
    | cmd => exact .cmd h
    | other => exact .other h.1 h.2

theorem readsTail_kind (kind : String) :
    ReadsTail (orClose ⟨kind, 0, 0, ""⟩ <|
      readItem readIntegerValue fun cols => orClose ⟨kind, cols, 0, ""⟩ <|
        readItem readIntegerValue fun rows => orClose ⟨kind, cols, rows, ""⟩ <|
          readItem readTextValue fun cmd => closeFrame ⟨kind, cols, rows, cmd⟩)
      (FitsKind kind) := by
  refine readsTail_orClose .cols reads_integer Member.hasValue_iff (fun cols => ?_) _
  refine readsTail_orClose .rows reads_integer Member.hasValue_iff (fun rows => ?_) _
  refine readsTail_orClose .cmd reads_text Member.hasValue_iff (fun cmd => ?_) _
  exact readsTail_closeFrame _

/-- Reading a list after its opening bracket. -/
theorem readItems_eq_ok_iff :
    readItems input = .ok (frame, rest) ↔
      ∃ members chars, IsRow Member.HasValue members chars ∧ input = chars ++ ']' :: rest ∧
        members <+: [.kind frame.kind, .cols frame.cols, .rows frame.rows, .cmd frame.cmd] ∧
        frame.IsNamedBy members := by
  have hfirst {input : List Char} : readFirstItem input = .ok (frame, rest) ↔ _ :=
    readItem_eq_ok_iff .kind reads_text Member.hasValue_iff readsTail_kind
  rw [readItems_eq, bind_eq_ok_iff]
  constructor
  · rintro ⟨next, hnext, h⟩
    cases next with
    | none => cases h
    | some item =>
      obtain ⟨start, hstart, rfl⟩ := of_nextItem_true hnext
      obtain ⟨kind, items, before, chars, tail, hbefore, hvalue, htail, rfl, hfits⟩ := hfirst.mp h
      exact ⟨_, _, .cons (hstart.append hbefore) hvalue htail, by simp,
        isPrefix_and_isNamedBy_iff.mpr ⟨kind, items, rfl, hfits⟩⟩
  · rintro ⟨members, chars, hrow, rfl, hlisted⟩
    obtain ⟨kind, items, rfl, hfits⟩ := isPrefix_and_isNamedBy_iff.mp hlisted
    cases hrow with
    | @cons _ _ before chars tail hbefore hvalue htail =>
      have hnext := nextItem_true_append hbefore hvalue (tail ++ ']' :: rest)
      have hread : readFirstItem (chars ++ (tail ++ ']' :: rest)) = .ok (frame, rest) :=
        hfirst.mpr ⟨kind, items, [], chars, tail, isBlanks_nil, hvalue, htail, rfl, hfits⟩
      exact ⟨some _, by simpa using hnext, hread⟩

/-! ## Frames -/

/-- Reading a frame from the front of a text. -/
theorem readMembers_eq_ok_iff :
    readMembers input = .ok (frame, rest) ↔
      ∃ before form, IsBlanks before ∧ frame.IsForm form ∧ input = before ++ (form ++ rest) := by
  constructor
  · intro h
    unfold readMembers at h
    split at h
    · cases h
    · rename_i c left hskip
      obtain ⟨-, before, hbefore, rfl⟩ := skipBlanks_eq_cons_iff.mp hskip
      split at h
      · rename_i hc
        obtain ⟨members, chars, hrow, rfl, hnamed⟩ := readObject_eq_ok_iff.mp h
        exact ⟨before, _, hbefore, .object hrow hnamed, by simp [hc]⟩
      · split at h
        · rename_i hc
          obtain ⟨members, chars, hrow, rfl, horder, hnamed⟩ := readItems_eq_ok_iff.mp h
          exact ⟨before, _, hbefore, .list hrow horder hnamed, by simp [hc]⟩
        · cases h
  · rintro ⟨before, form, hbefore, hform, rfl⟩
    rw [readMembers, skipBlanks_append hbefore]
    cases hform with
    | @object members chars hrow hnamed =>
      have hread : readMembersWithin ((chars ++ '}' :: rest).length + 1) true .none
          (chars ++ '}' :: rest) = .ok (frame, rest) :=
        readObject_eq_ok_iff.mpr ⟨members, chars, hrow, rfl, hnamed⟩
      rw [List.cons_append, List.append_assoc, skipBlanks_cons rfl]
      exact hread
    | @list members chars hrow horder hnamed =>
      have hread : readItems (chars ++ ']' :: rest) = .ok (frame, rest) :=
        readItems_eq_ok_iff.mpr ⟨members, chars, hrow, rfl, horder, hnamed⟩
      rw [List.cons_append, List.append_assoc, skipBlanks_cons rfl]
      exact hread

/-- A text is read as a frame if and only if it is that frame written down. -/
theorem read_eq_ok_iff {text : String} :
    Frame.read text = .ok frame ↔ frame.IsWritten text.toList := by
  unfold Frame.read
  constructor
  · intro h
    split at h
    · cases h
    · rename_i read left hread
      obtain ⟨before, form, hbefore, hform, hinput⟩ := readMembers_eq_ok_iff.mp hread
      split at h
      · rename_i hblanks
        cases h
        rw [hinput]
        exact .mk hbefore hform (skipBlanks_eq_nil_iff.mp hblanks)
      · cases h
  · intro h
    obtain ⟨before, form, after, hbefore, hform, hafter, hinput⟩ : ∃ before form after,
        IsBlanks before ∧ frame.IsForm form ∧ IsBlanks after ∧
          text.toList = before ++ (form ++ after) := by
      generalize text.toList = chars at h
      cases h with
      | mk hbefore hform hafter => exact ⟨_, _, _, hbefore, hform, hafter, rfl⟩
    have hread := readMembers_eq_ok_iff.mpr ⟨before, form, hbefore, hform, hinput⟩
    have hblanks : skipBlanks after = [] := skipBlanks_eq_nil_iff.mpr hafter
    simp only [hread, hblanks, if_true]

/-- Keys are unescaped, and what is none of a frame is passed over. -/
example : (Frame.mk "ab" 0 7 "").IsWritten
    "\x7b\"x\": [null], \"r\\u006fws\": 7, \"type\": \"ab\"\x7d".toList :=
  read_eq_ok_iff.mp (by cbv)

/-! ## Decoding -/

theorem isWritten_unique {text : String} {other : Frame} (h : frame.IsWritten text.toList)
    (hother : other.IsWritten text.toList) : frame = other := by
  have hread := read_eq_ok_iff.mpr h
  rw [read_eq_ok_iff.mpr hother] at hread
  exact (Except.ok.inj hread).symm

/-- What a frame asks for may be wrong, but it is a frame. -/
theorem Frame.command_ne_notFrame (frame : Frame) (e : Error) :
    frame.command ≠ .error (.notFrame e) := by
  intro h
  unfold Frame.command at h
  split at h
  · split at h <;> cases h
  · split at h <;> cases h
  · cases h
  · cases h

/-- A text stands for a frame if and only if it is one of the two forms, with blanks around
its tokens; there is one such frame at most, and decoding goes on with it. Any other text is
refused as no frame. -/
theorem decodes_what_is_written (text : String) :
    (∀ frame, Frame.read text = .ok frame ↔ frame.IsWritten text.toList) ∧
      (∀ frame other : Frame, frame.IsWritten text.toList → other.IsWritten text.toList →
        frame = other) ∧
      (∀ frame : Frame, frame.IsWritten text.toList → decode text = frame.command) ∧
      ((∃ e, decode text = .error (.notFrame e)) ↔
        ∀ frame : Frame, ¬ frame.IsWritten text.toList) := by
  have hdecode (frame : Frame) (h : frame.IsWritten text.toList) : decode text = frame.command := by
    simp only [decode, read_eq_ok_iff.mpr h]
  refine ⟨fun frame => read_eq_ok_iff, fun _ _ => isWritten_unique, hdecode, ?_⟩
  constructor
  · rintro ⟨e, he⟩ frame h
    rw [hdecode frame h] at he
    exact frame.command_ne_notFrame e he
  · intro hnone
    cases hread : Frame.read text with
    | error e => exact ⟨e, by simp only [decode, hread]⟩
    | ok frame => exact absurd (read_eq_ok_iff.mp hread) (hnone frame)

end RemoteShell.Control

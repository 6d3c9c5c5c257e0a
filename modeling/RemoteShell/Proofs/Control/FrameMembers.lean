import RemoteShell.Control.Command
import RemoteShell.Proofs.Computation
import RemoteShell.Proofs.Control.FrameGrammar
import RemoteShell.Proofs.Json.Skipping

/-!
# The members of a frame

The reader of an object keeps the members of a frame that it has seen and passes over the
others. Main statements: what is kept makes up the frame that the members name
(`addAll?_toFrame_iff`), and a member is read if and only if it is one of the grammar that
can be kept (`of_readMember`, `readMember_of_isWritten`).
-/

namespace RemoteShell.Control

open Json

variable {input rest chars tail : List Char} {frame : Frame} {acc acc' : Members}

/-! ## Keeping members -/

/-- Takes up a member, unless there has been one with its key. -/
def Members.add? (acc : Members) : Member → Option Members
  | .kind value => if acc.kind.isSome then .none else some { acc with kind := some value }
  | .cols value => if acc.cols.isSome then .none else some { acc with cols := some value }
  | .rows value => if acc.rows.isSome then .none else some { acc with rows := some value }
  | .cmd value => if acc.cmd.isSome then .none else some { acc with cmd := some value }
  | .other _ => some acc

/-- Takes up one member after the other. -/
def Members.addAll? (acc : Members) (members : List Member) : Option Members :=
  members.foldlM Members.add? acc

/-- The members that have been kept are those that have been seen. -/
structure Members.Holds (acc : Members) (seen : List Member) : Prop where
  kind : seen.filterMap Member.kind? = acc.kind.toList
  cols : seen.filterMap Member.cols? = acc.cols.toList
  rows : seen.filterMap Member.rows? = acc.rows.toList
  cmd : seen.filterMap Member.cmd? = acc.cmd.toList

theorem Members.holds_none : Members.none.Holds [] := ⟨rfl, rfl, rfl, rfl⟩

theorem Members.Holds.add {seen : List Member} {member : Member} (h : acc.Holds seen)
    (hadd : acc.add? member = some acc') : acc'.Holds (seen ++ [member]) := by
  obtain ⟨hkind, hcols, hrows, hcmd⟩ := h
  cases member with
  | kind | cols | rows | cmd =>
    simp only [Members.add?, Option.ite_none_left_eq_some, Option.some.injEq] at hadd
    obtain ⟨hnew, rfl⟩ := hadd
    constructor <;>
      simp_all [Member.kind?, Member.cols?, Member.rows?, Member.cmd?]
  | other =>
    cases hadd
    constructor <;>
      simp_all [Member.kind?, Member.cols?, Member.rows?, Member.cmd?]

theorem Members.Holds.addAll {seen members : List Member} (h : acc.Holds seen)
    (hadd : acc.addAll? members = some acc') : acc'.Holds (seen ++ members) := by
  induction members generalizing acc seen with
  | nil =>
    cases hadd
    simpa using h
  | cons member later ih =>
    obtain ⟨next, hnext, hlater⟩ := Option.bind_eq_some_iff.mp hadd
    simpa using ih (h.add hnext) hlater

theorem length_le_one_of_isGiven {α : Type} {default value : α} {given : List α}
    (h : IsGiven default value given) : given.length ≤ 1 := by
  rcases h with rfl | ⟨rfl, -⟩ <;> simp

theorem eq_none_of_length_le_one {α : Type} {kept : Option α} {value : α} {later : List α}
    (h : (kept.toList ++ value :: later).length ≤ 1) : kept = none := by
  cases kept with
  | none => rfl
  | some old => simp at h

/-- No member of a frame is refused. -/
theorem Members.Holds.exists_add {seen later : List Member} {member : Member} (h : acc.Holds seen)
    (hnamed : frame.IsNamedBy (seen ++ member :: later)) :
    ∃ next, acc.add? member = some next := by
  have hkinds : ((seen ++ member :: later).filterMap Member.kind?).length ≤ 1 := by
    rw [hnamed.kind]
    exact Nat.le_refl 1
  have hcols := length_le_one_of_isGiven hnamed.cols
  have hrows := length_le_one_of_isGiven hnamed.rows
  have hcmd := length_le_one_of_isGiven hnamed.cmd
  cases member with
  | kind value =>
    rw [List.filterMap_append, h.kind] at hkinds
    have hnew : acc.kind = .none := eq_none_of_length_le_one hkinds
    simp [Members.add?, hnew]
  | cols value =>
    rw [List.filterMap_append, h.cols] at hcols
    have hnew : acc.cols = .none := eq_none_of_length_le_one hcols
    simp [Members.add?, hnew]
  | rows value =>
    rw [List.filterMap_append, h.rows] at hrows
    have hnew : acc.rows = .none := eq_none_of_length_le_one hrows
    simp [Members.add?, hnew]
  | cmd value =>
    rw [List.filterMap_append, h.cmd] at hcmd
    have hnew : acc.cmd = .none := eq_none_of_length_le_one hcmd
    simp [Members.add?, hnew]
  | other key => exact ⟨acc, rfl⟩

theorem Members.Holds.exists_addAll {seen members : List Member} (h : acc.Holds seen)
    (hnamed : frame.IsNamedBy (seen ++ members)) : ∃ last, acc.addAll? members = some last := by
  induction members generalizing acc seen with
  | nil => exact ⟨acc, rfl⟩
  | cons member later ih =>
    obtain ⟨next, hnext⟩ := h.exists_add hnamed
    obtain ⟨last, hlast⟩ := ih (h.add hnext) (by simpa using hnamed)
    exact ⟨last, Option.bind_eq_some_iff.mpr ⟨next, hnext, hlast⟩⟩

theorem isGiven_toList_iff {α : Type} {default value : α} {kept : Option α} :
    IsGiven default value kept.toList ↔ kept.getD default = value := by
  cases kept with
  | none => simp [IsGiven, eq_comm]
  | some old => simp [IsGiven]

/-- The members that have been kept make up the frame that they name. -/
theorem Members.Holds.toFrame_iff {seen : List Member} (h : acc.Holds seen) :
    acc.toFrame = .ok frame ↔ frame.IsNamedBy seen := by
  have hnamed : frame.IsNamedBy seen ↔ acc.kind = some frame.kind ∧
      acc.cols.getD 0 = frame.cols ∧ acc.rows.getD 0 = frame.rows ∧
      acc.cmd.getD "" = frame.cmd := by
    constructor
    · rintro ⟨hkind, hcols, hrows, hcmd⟩
      rw [h.kind] at hkind
      rw [h.cols, isGiven_toList_iff] at hcols
      rw [h.rows, isGiven_toList_iff] at hrows
      rw [h.cmd, isGiven_toList_iff] at hcmd
      exact ⟨by simpa using congrArg List.head? hkind, hcols, hrows, hcmd⟩
    · rintro ⟨hkind, hcols, hrows, hcmd⟩
      refine ⟨by rw [h.kind, hkind]; rfl, ?_, ?_, ?_⟩
      · rw [h.cols, isGiven_toList_iff, hcols]
      · rw [h.rows, isGiven_toList_iff, hrows]
      · rw [h.cmd, isGiven_toList_iff, hcmd]
  rw [hnamed]
  obtain ⟨kind, cols, rows, cmd⟩ := frame
  unfold Members.toFrame
  split
  · rename_i hnone
    simp [hnone]
  · rename_i old hold
    simp [hold]

/-- What makes up a frame of some members. -/
theorem addAll?_toFrame_iff {members : List Member} :
    (∃ last, Members.none.addAll? members = some last ∧ last.toFrame = .ok frame) ↔
      frame.IsNamedBy members := by
  have hnone := Members.holds_none
  constructor
  · rintro ⟨last, hadd, hframe⟩
    exact (hnone.addAll hadd).toFrame_iff.mp hframe
  · intro hnamed
    obtain ⟨last, hlast⟩ : ∃ last, Members.none.addAll? members = some last :=
      hnone.exists_addAll hnamed
    exact ⟨last, hlast, (hnone.addAll hlast).toFrame_iff.mpr hnamed⟩

/-! ## Reading a member -/

/-- Passing a colon takes the blanks in front of it. -/
theorem of_readColon (h : readColon input = .ok rest) :
    ∃ gap, IsBlanks gap ∧ input = gap ++ ':' :: rest := by
  unfold readColon at h
  split at h
  · cases h
  · rename_i c tail hskip
    obtain ⟨-, gap, hgap, rfl⟩ := skipBlanks_eq_cons_iff.mp hskip
    split at h
    · rename_i hc
      cases h
      exact ⟨gap, hgap, by rw [hc]⟩
    · cases h

theorem readColon_append {gap : List Char} (hgap : IsBlanks gap) (rest : List Char) :
    readColon (gap ++ ':' :: rest) = .ok rest := by
  simp [readColon, skipBlanks_append hgap, skipBlanks_cons, isBlank]

/-- Reads the value of a member and keeps it, unless its key has been seen. -/
def readField {α : Type} (key : String) (isSeen : Bool)
    (read : List Char → Except Error (α × List Char)) (keep : α → Members) (input : List Char) :
    Except Error (Members × List Char) := do
  if isSeen then throw (.duplicateField key)
  let (value, rest) ← read (← readColon input)
  return (keep value, rest)

theorem readValueOf_type :
    readValueOf "type" acc input = readField "type" acc.kind.isSome readTextValue
      (fun value => { acc with kind := some value }) input := rfl

theorem readValueOf_cols :
    readValueOf "cols" acc input = readField "cols" acc.cols.isSome readIntegerValue
      (fun value => { acc with cols := some value }) input := rfl

theorem readValueOf_rows :
    readValueOf "rows" acc input = readField "rows" acc.rows.isSome readIntegerValue
      (fun value => { acc with rows := some value }) input := rfl

theorem readValueOf_cmd :
    readValueOf "cmd" acc input = readField "cmd" acc.cmd.isSome readTextValue
      (fun value => { acc with cmd := some value }) input := rfl

/-- A member that is none of a frame is passed over. -/
theorem readValueOf_of_other {key : String} (hkey : key ∉ ["type", "cols", "rows", "cmd"]) :
    readValueOf key acc input =
      readField key false (fun input => (skipValue input).map ((), ·)) (fun _ => acc) input := by
  unfold readValueOf
  split
  · simp at hkey
  · simp at hkey
  · simp at hkey
  · simp at hkey
  · unfold readField
    cases readColon input with
    | error e => rfl
    | ok left =>
      change (skipValue left >>= fun rest => pure (acc, rest)) =
        ((skipValue left).map ((), ·) >>= fun result => pure (acc, result.2))
      cases skipValue left <;> rfl

section field

variable {α : Type} {key : String} {isSeen : Bool} {read : List Char → Except Error (α × List Char)}
  {IsLiteral : α → List Char → Prop} {keep : α → Members}

/-- Reading a field takes a colon and a literal, and keeps a member with its value. -/
theorem of_readField (hreads : Reads read IsLiteral) (make : α → Member)
    (hmake : ∀ {value literal}, IsLiteral value literal → (make value).HasValue literal)
    (hkeep : isSeen = false → ∀ value, acc.add? (make value) = some (keep value))
    (h : readField key isSeen read keep input = .ok (acc', rest)) :
    ∃ value gap before literal, IsBlanks gap ∧ IsBlanks before ∧ (make value).HasValue literal ∧
      input = gap ++ ':' :: (before ++ (literal ++ rest)) ∧
      acc.add? (make value) = some acc' := by
  cases isSeen with
  | true => cases h
  | false =>
    obtain ⟨left, hcolon, h⟩ := bind_eq_ok_iff.mp h
    obtain ⟨⟨value, last⟩, hread, h⟩ := bind_eq_ok_iff.mp h
    cases h
    obtain ⟨gap, hgap, rfl⟩ := of_readColon hcolon
    obtain ⟨before, literal, hbefore, hliteral, rfl⟩ := hreads.sound hread
    exact ⟨value, gap, before, literal, hgap, hbefore, hmake hliteral, rfl, hkeep rfl value⟩

theorem readField_of_isLiteral (hreads : Reads read IsLiteral) {gap before literal : List Char}
    (value : α) (hgap : IsBlanks gap) (hbefore : IsBlanks before)
    (hliteral : IsLiteral value literal) (hrest : EndsNumber rest) :
    readField key false read keep (gap ++ ':' :: (before ++ (literal ++ rest))) =
      .ok (keep value, rest) := by
  have hcolon := readColon_append hgap (before ++ (literal ++ rest))
  have hread := hreads.complete hbefore hliteral hrest
  exact bind_eq_ok_iff.mpr ⟨_, hcolon, bind_eq_ok_iff.mpr ⟨_, hread, rfl⟩⟩

end field

theorem add?_of_new {member : Member} {isSeen : Bool} {next : Members}
    (h : acc.add? member = if isSeen then .none else some next) (hnew : isSeen = false) :
    acc.add? member = some next := by
  rw [h, hnew]
  rfl

/-- Reading the value of a member takes its colon and its value. -/
theorem of_readValueOf {key : String} (h : readValueOf key acc input = .ok (acc', rest)) :
    ∃ member gap before literal, member.key = key ∧ IsBlanks gap ∧ IsBlanks before ∧
      member.HasValue literal ∧ input = gap ++ ':' :: (before ++ (literal ++ rest)) ∧
      acc.add? member = some acc' := by
  by_cases hkey : key ∈ ["type", "cols", "rows", "cmd"]
  · simp only [List.mem_cons, List.not_mem_nil, or_false] at hkey
    rcases hkey with rfl | rfl | rfl | rfl
    · rw [readValueOf_type] at h
      obtain ⟨value, gap, before, literal, hmember⟩ :=
        of_readField reads_text .kind .kind (fun hnew _ => add?_of_new rfl hnew) h
      exact ⟨.kind value, gap, before, literal, rfl, hmember⟩
    · rw [readValueOf_cols] at h
      obtain ⟨value, gap, before, literal, hmember⟩ :=
        of_readField reads_integer .cols .cols (fun hnew _ => add?_of_new rfl hnew) h
      exact ⟨.cols value, gap, before, literal, rfl, hmember⟩
    · rw [readValueOf_rows] at h
      obtain ⟨value, gap, before, literal, hmember⟩ :=
        of_readField reads_integer .rows .rows (fun hnew _ => add?_of_new rfl hnew) h
      exact ⟨.rows value, gap, before, literal, rfl, hmember⟩
    · rw [readValueOf_cmd] at h
      obtain ⟨value, gap, before, literal, hmember⟩ :=
        of_readField reads_text .cmd .cmd (fun hnew _ => add?_of_new rfl hnew) h
      exact ⟨.cmd value, gap, before, literal, rfl, hmember⟩
  · rw [readValueOf_of_other hkey] at h
    obtain ⟨-, gap, before, literal, hmember⟩ :=
      of_readField reads_any (fun _ => .other key) (.other hkey) (fun _ _ => rfl) h
    exact ⟨.other key, gap, before, literal, rfl, hmember⟩

/-- A member that can be kept has not been seen. -/
theorem of_add?_eq_some {isSeen : Bool} {next : Members}
    (h : (if isSeen then .none else some next) = some acc') : isSeen = false ∧ next = acc' := by
  cases isSeen with
  | true => cases h
  | false => exact ⟨rfl, Option.some.inj h⟩

theorem readValueOf_of_hasValue {member : Member} {gap before literal : List Char}
    (hadd : acc.add? member = some acc') (hgap : IsBlanks gap) (hbefore : IsBlanks before)
    (hvalue : member.HasValue literal) (hrest : EndsNumber rest) :
    readValueOf member.key acc (gap ++ ':' :: (before ++ (literal ++ rest))) =
      .ok (acc', rest) := by
  cases hvalue with
  | kind hliteral =>
    obtain ⟨hnew, rfl⟩ := of_add?_eq_some hadd
    rw [Member.key, readValueOf_type, hnew]
    exact readField_of_isLiteral reads_text _ hgap hbefore hliteral hrest
  | cols hliteral =>
    obtain ⟨hnew, rfl⟩ := of_add?_eq_some hadd
    rw [Member.key, readValueOf_cols, hnew]
    exact readField_of_isLiteral reads_integer _ hgap hbefore hliteral hrest
  | rows hliteral =>
    obtain ⟨hnew, rfl⟩ := of_add?_eq_some hadd
    rw [Member.key, readValueOf_rows, hnew]
    exact readField_of_isLiteral reads_integer _ hgap hbefore hliteral hrest
  | cmd hliteral =>
    obtain ⟨hnew, rfl⟩ := of_add?_eq_some hadd
    rw [Member.key, readValueOf_cmd, hnew]
    exact readField_of_isLiteral reads_text _ hgap hbefore hliteral hrest
  | other hkey hliteral =>
    cases hadd
    rw [Member.key, readValueOf_of_other hkey]
    exact readField_of_isLiteral reads_any () hgap hbefore hliteral hrest

theorem of_readMember (h : readMember acc input = .ok (acc', rest)) :
    ∃ member chars, member.IsWritten ('"' :: chars) ∧ input = chars ++ rest ∧
      acc.add? member = some acc' := by
  unfold readMember at h
  split at h
  · cases h
  · rename_i key left hread
    obtain ⟨body, hbody, rfl⟩ := isText_of_readText hread
    obtain ⟨member, gap, before, literal, hkey, hgap, hbefore, hvalue, rfl, hadd⟩ :=
      of_readValueOf h
    have htext : IsText member.key.toList body := by
      rw [hkey, String.toList_ofList]
      exact hbody
    exact ⟨member, _, .mk htext hgap hbefore hvalue, by simp, hadd⟩

theorem readMember_of_isWritten {member : Member} (hadd : acc.add? member = some acc')
    (hmember : member.IsWritten ('"' :: chars)) (hrest : EndsNumber rest) :
    readMember acc (chars ++ rest) = .ok (acc', rest) := by
  cases hmember with
  | @mk body gap before value hkey hgap hbefore hvalue =>
    have htext := readText_of_isText hkey (gap ++ ':' :: (before ++ (value ++ rest)))
    have hread := readValueOf_of_hasValue hadd hgap hbefore hvalue hrest
    simpa [readMember, htext] using hread

end RemoteShell.Control

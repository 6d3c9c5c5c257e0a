import RemoteShell.Proofs.Control.FrameMembers

/-!
# Reading the object form of a frame

The reader goes through the members one by one and keeps their values. It takes exactly the
rows of members up to a closing brace, and finds the frame that they name
(`readObject_eq_ok_iff`).
-/

namespace RemoteShell.Control

open Json

variable {input rest chars tail : List Char} {frame : Frame} {acc : Members}
  {members : List Member} {steps : Nat}

theorem of_map_eq_ok {α β : Type} {f : α → β} {result : Except Error α} {b : β}
    (h : result.map f = .ok b) : ∃ a, result = .ok a ∧ f a = b := by
  cases result with
  | error e => cases h
  | ok a => exact ⟨a, rfl, Except.ok.inj h⟩

/-- What follows an item does not go on with a number. -/
theorem IsTail.endsNumber {α : Type} {IsItem : α → List Char → Prop} {items : List α}
    (h : IsTail IsItem items tail) {c : Char} (hc : isDelimiter c = true) (rest : List Char) :
    EndsNumber (tail ++ c :: rest) := by
  cases h with
  | nil hafter => exact hafter.endsNumber (endsNumber_of_isDelimiter hc)
  | cons hafter =>
    rw [List.append_assoc]
    exact hafter.endsNumber (endsNumber_of_isDelimiter rfl)

theorem Member.IsWritten.exists_cons {member : Member} (h : member.IsWritten chars) :
    ∃ later, chars = '"' :: later := by
  cases h with
  | mk => exact ⟨_, rfl⟩

/-! ## Members up to the closing brace -/

/-- Reads a member and what follows it. -/
def readNext (steps : Nat) (acc : Members) (input : List Char) :
    Except Error (Frame × List Char) :=
  match readMember acc input with
  | .error e => .error e
  | .ok (next, left) => readMembersWithin steps false next left

theorem readMembersWithin_succ (steps : Nat) (isFirst : Bool) (acc : Members)
    (input : List Char) :
    readMembersWithin (steps + 1) isFirst acc input =
      match skipBlanks input with
      | [] => .error (.incomplete .object)
      | c :: rest =>
        if c = '}' then acc.toFrame.map (·, rest)
        else if isFirst then
          if c = '"' then readNext steps acc rest else .error (.malformed .keyNotText)
        else if c = ',' then
          match skipBlanks rest with
          | [] => .error (.incomplete .value)
          | d :: tail =>
            if d = '"' then readNext steps acc tail
            else if d = '}' then .error (.malformed .trailingComma)
            else .error (.malformed .keyNotText)
        else .error (.malformed .expectedCommaOrBrace) := rfl

/-- Some members make up a frame together with those that have been kept. -/
def Completes (acc : Members) (frame : Frame) (members : List Member) : Prop :=
  ∃ last, acc.addAll? members = some last ∧ last.toFrame = .ok frame

theorem completes_nil_iff : Completes acc frame [] ↔ acc.toFrame = .ok frame := by
  constructor
  · rintro ⟨last, hadd, hframe⟩
    cases hadd
    exact hframe
  · intro hframe
    exact ⟨acc, rfl, hframe⟩

theorem completes_cons_iff {member : Member} :
    Completes acc frame (member :: members) ↔
      ∃ next, acc.add? member = some next ∧ Completes next frame members := by
  constructor
  · rintro ⟨last, hadd, hframe⟩
    obtain ⟨next, hnext, hlater⟩ := Option.bind_eq_some_iff.mp hadd
    exact ⟨next, hnext, last, hlater, hframe⟩
  · rintro ⟨next, hnext, last, hlater, hframe⟩
    exact ⟨last, Option.bind_eq_some_iff.mpr ⟨next, hnext, hlater⟩, hframe⟩

theorem completes_none_iff : Completes .none frame members ↔ frame.IsNamedBy members :=
  addAll?_toFrame_iff

/-- The input goes on with members, up to the closing brace, that make up a frame together
with those that have been kept. -/
def ClosesObject (acc : Members) (frame : Frame) (input rest : List Char) : Prop :=
  ∃ members tail, IsTail Member.IsWritten members tail ∧ input = tail ++ '}' :: rest ∧
    Completes acc frame members

/-- A member is read together with the members that follow it. -/
theorem of_readNext
    (ih : ∀ {acc input}, readMembersWithin steps false acc input = .ok (frame, rest) →
      ClosesObject acc frame input rest)
    (h : readNext steps acc input = .ok (frame, rest)) :
    ∃ member members chars tail, member.IsWritten ('"' :: chars) ∧
      IsTail Member.IsWritten members tail ∧ input = chars ++ (tail ++ '}' :: rest) ∧
      Completes acc frame (member :: members) := by
  unfold readNext at h
  split at h
  · cases h
  · rename_i next left hread
    obtain ⟨member, chars, hmember, rfl, hnext⟩ := of_readMember hread
    obtain ⟨members, tail, htail, rfl, hlater⟩ := ih h
    exact ⟨member, members, chars, tail, hmember, htail, rfl,
      completes_cons_iff.mpr ⟨next, hnext, hlater⟩⟩

theorem of_readMembersWithin (h : readMembersWithin steps false acc input = .ok (frame, rest)) :
    ClosesObject acc frame input rest := by
  induction steps generalizing acc input with
  | zero => cases h
  | succ steps ih =>
    rw [readMembersWithin_succ] at h
    split at h
    · cases h
    · rename_i c left hskip
      obtain ⟨-, after, hafter, rfl⟩ := skipBlanks_eq_cons_iff.mp hskip
      split at h
      · rename_i hc
        obtain ⟨last, hframe, hlast⟩ := of_map_eq_ok h
        cases hlast
        exact ⟨[], after, .nil hafter, by rw [hc], completes_nil_iff.mpr hframe⟩
      · rw [if_neg Bool.false_ne_true] at h
        split at h
        · rename_i hc
          split at h
          · cases h
          · rename_i d later hlater
            obtain ⟨-, before, hbefore, rfl⟩ := skipBlanks_eq_cons_iff.mp hlater
            split at h
            · rename_i hd
              obtain ⟨member, members, chars, tail, hmember, htail, rfl, hcompletes⟩ :=
                of_readNext ih h
              exact ⟨_, _, .cons hafter hbefore hmember htail, by simp [hc, hd], hcompletes⟩
            · split at h <;> cases h
        · cases h

theorem readNext_of_isWritten {member : Member} (hmember : member.IsWritten ('"' :: chars))
    (htail : IsTail Member.IsWritten members tail)
    (h : Completes acc frame (member :: members)) (rest : List Char)
    (ih : ∀ {acc}, Completes acc frame members →
      readMembersWithin steps false acc (tail ++ '}' :: rest) = .ok (frame, rest)) :
    readNext steps acc (chars ++ (tail ++ '}' :: rest)) = .ok (frame, rest) := by
  obtain ⟨next, hnext, hlater⟩ := completes_cons_iff.mp h
  have hends : EndsNumber (tail ++ '}' :: rest) := htail.endsNumber (by decide) rest
  have hread := readMember_of_isWritten hnext hmember hends
  simp only [readNext, hread, ih hlater]

/-- Each member takes a step, and it has a comma at least. -/
theorem readMembersWithin_of_isTail (htail : IsTail Member.IsWritten members tail)
    (h : Completes acc frame members) (rest : List Char) (hsteps : tail.length < steps) :
    readMembersWithin steps false acc (tail ++ '}' :: rest) = .ok (frame, rest) := by
  induction htail generalizing acc steps with
  | nil hafter =>
    obtain ⟨steps, rfl⟩ := Nat.exists_eq_add_one_of_ne_zero (Nat.ne_zero_of_lt hsteps)
    have hframe := completes_nil_iff.mp h
    rw [readMembersWithin_succ, skipBlanks_append hafter, skipBlanks_cons rfl]
    simp [hframe, Except.map]
  | @cons member members after before chars tail hafter hbefore hmember htail ih =>
    obtain ⟨steps, rfl⟩ := Nat.exists_eq_add_one_of_ne_zero (Nat.ne_zero_of_lt hsteps)
    obtain ⟨chars, rfl⟩ := hmember.exists_cons
    have hroom : tail.length < steps := by
      simp only [List.length_append, List.length_cons] at hsteps
      omega
    have hnext := readNext_of_isWritten hmember htail h rest (fun hlater => ih hlater hroom)
    rw [readMembersWithin_succ, List.append_assoc, skipBlanks_append hafter, List.cons_append,
      skipBlanks_cons rfl, List.append_assoc]
    simp [skipBlanks_append hbefore, skipBlanks_cons, isBlank, hnext]

/-- Reading an object after its opening brace. -/
theorem readObject_eq_ok_iff :
    readMembersWithin (input.length + 1) true .none input = .ok (frame, rest) ↔
      ∃ members chars, IsRow Member.IsWritten members chars ∧ input = chars ++ '}' :: rest ∧
        frame.IsNamedBy members := by
  rw [readMembersWithin_succ]
  constructor
  · intro h
    split at h
    · cases h
    · rename_i c left hskip
      obtain ⟨-, before, hbefore, rfl⟩ := skipBlanks_eq_cons_iff.mp hskip
      split at h
      · cases h
      · rw [if_pos rfl] at h
        split at h
        · rename_i hc
          obtain ⟨member, members, chars, tail, hmember, htail, rfl, hcompletes⟩ :=
            of_readNext of_readMembersWithin h
          exact ⟨_, _, .cons hbefore hmember htail, by simp [hc], completes_none_iff.mp hcompletes⟩
        · cases h
  · rintro ⟨members, chars, hrow, rfl, hnamed⟩
    cases hrow with
    | @cons member members before chars tail hbefore hmember htail =>
      obtain ⟨chars, rfl⟩ := hmember.exists_cons
      have hroom : tail.length < (before ++ ('"' :: chars ++ tail) ++ '}' :: rest).length := by
        simp only [List.length_append, List.length_cons]
        omega
      have hnext := readNext_of_isWritten hmember htail (completes_none_iff.mpr hnamed) rest
        (fun hlater => readMembersWithin_of_isTail htail hlater rest hroom)
      rw [List.append_assoc, skipBlanks_append hbefore, List.cons_append, List.cons_append,
        skipBlanks_cons rfl, List.append_assoc]
      rw [List.append_assoc, List.append_assoc] at hnext
      simpa using hnext

end RemoteShell.Control

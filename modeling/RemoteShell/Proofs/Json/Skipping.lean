import RemoteShell.Json.Skip
import RemoteShell.Proofs.Json.Values

/-!
# Passing over values

A value is passed over if and only if it is one, whatever its depth. Soundness is by
induction on the bound of the reader; completeness by induction on the value, whose length
tells how many steps are enough.
-/

namespace RemoteShell.Json

variable {input rest body digits : List Char} {steps : Nat}

/-! ## Keys -/

/-- Passing over a key takes the colon as well. -/
theorem of_skipKey (h : skipKey input = .ok rest) :
    ∃ start key gap, IsBlanks start ∧ IsRawText key ∧ IsBlanks gap ∧
      input = start ++ '"' :: (key ++ '"' :: (gap ++ ':' :: rest)) := by
  unfold skipKey at h
  split at h
  · cases h
  · rename_i c tail hskip
    obtain ⟨-, start, hstart, rfl⟩ := skipBlanks_eq_cons_iff.mp hskip
    split at h
    · cases h
    · rename_i hquote
      obtain rfl : c = '"' := by simpa using hquote
      split at h
      · cases h
      · rename_i left htext
        obtain ⟨key, hkey, rfl⟩ := skipText_eq_ok_iff.mp htext
        split at h
        · cases h
        · rename_i d after hcolon
          obtain ⟨-, gap, hgap, rfl⟩ := skipBlanks_eq_cons_iff.mp hcolon
          split at h
          · rename_i hd
            cases h
            exact ⟨start, key, gap, hstart, hkey, hgap, by rw [hd]⟩
          · cases h

theorem skipKey_of_isRawText {start key gap : List Char} (hstart : IsBlanks start)
    (hkey : IsRawText key) (hgap : IsBlanks gap) (rest : List Char) :
    skipKey (start ++ '"' :: (key ++ '"' :: (gap ++ ':' :: rest))) = .ok rest := by
  have htext := skipText_of_isRawText hkey (gap ++ ':' :: rest)
  simp [skipKey, skipBlanks_append hstart, skipBlanks_append hgap, skipBlanks_cons, isBlank, htext]

/-! ## Soundness -/

theorem IsPart.blanks_append_list {blanks items : List Char} (hblanks : IsBlanks blanks)
    (h : IsPart .list items) : IsPart .list (blanks ++ items) := by
  cases h with
  | lastItem hbefore hvalue hafter =>
    have hpart := IsPart.lastItem (hblanks.append hbefore) hvalue hafter
    simpa using hpart
  | item hbefore hvalue hafter hitems =>
    have hpart := IsPart.item (hblanks.append hbefore) hvalue hafter hitems
    simpa using hpart

theorem IsPart.blanks_append_object {blanks members : List Char} (hblanks : IsBlanks blanks)
    (h : IsPart .object members) : IsPart .object (blanks ++ members) := by
  cases h with
  | lastMember hstart hkey hgap hbefore hvalue hafter =>
    have hpart := IsPart.lastMember (hblanks.append hstart) hkey hgap hbefore hvalue hafter
    simpa using hpart
  | member hstart hkey hgap hbefore hvalue hafter hmembers =>
    have hpart := IsPart.member (hblanks.append hstart) hkey hgap hbefore hvalue hafter hmembers
    simpa using hpart

/-- The items of a list are passed over together with its closing bracket. -/
def PassesItems (steps : Nat) : Prop :=
  ∀ input rest, skipItemsWithin steps input = .ok rest →
    ∃ items, IsPart .list items ∧ input = items ++ ']' :: rest

/-- The members of an object are passed over together with its closing brace. -/
def PassesMembers (steps : Nat) : Prop :=
  ∀ input rest, skipMembersWithin steps input = .ok rest →
    ∃ members, IsPart .object members ∧ input = members ++ '}' :: rest

/-- A value is passed over together with the blanks in front of it. -/
def PassesValue (steps : Nat) : Prop :=
  ∀ input rest, skipValueWithin steps input = .ok rest →
    ∃ before value, IsBlanks before ∧ IsPart .value value ∧ input = before ++ (value ++ rest)

theorem passesValue_succ (hitems : PassesItems steps) (hmembers : PassesMembers steps) :
    PassesValue (steps + 1) := by
  intro input rest h
  rw [skipValueWithin] at h
  split at h
  · cases h
  · rename_i c tail hskip
    obtain ⟨-, before, hbefore, rfl⟩ := skipBlanks_eq_cons_iff.mp hskip
    suffices hvalue : ∃ value, IsPart .value value ∧ c :: tail = value ++ rest by
      obtain ⟨value, hvalue, hinput⟩ := hvalue
      exact ⟨before, value, hbefore, hvalue, by rw [hinput]⟩
    obtain ⟨blanks, hblanks, htail⟩ := exists_blanks tail
    split at h
    case isTrue hc =>
      rw [readWord_eq_ok_iff.mp h, hc]
      exact ⟨_, .null, rfl⟩
    split at h
    case isTrue hc =>
      rw [readWord_eq_ok_iff.mp h, hc]
      exact ⟨_, .true, rfl⟩
    split at h
    case isTrue hc =>
      rw [readWord_eq_ok_iff.mp h, hc]
      exact ⟨_, .false, rfl⟩
    split at h
    case isTrue hc =>
      obtain ⟨number, hnumber, rfl⟩ := isUnsigned_of_skipNumber h
      rw [hc]
      exact ⟨_, .negative hnumber, rfl⟩
    split at h
    case isTrue =>
      obtain ⟨number, hnumber, hinput⟩ := isUnsigned_of_skipNumber h
      exact ⟨number, .positive hnumber, hinput⟩
    split at h
    case isTrue hc =>
      obtain ⟨body, hbody, rfl⟩ := skipText_eq_ok_iff.mp h
      exact ⟨_, .text (.body hbody), by simp [hc]⟩
    split at h
    case isTrue hc =>
      split at h
      · cases h
      · rename_i d after hfirst
        rw [hfirst] at htail
        split at h
        · rename_i hd
          cases h
          exact ⟨_, .emptyList hblanks, by simp [hc, htail, hd]⟩
        · obtain ⟨items, hlist, hafter⟩ := hitems _ _ h
          exact ⟨_, .list (hlist.blanks_append_list hblanks), by simp [hc, htail, hafter]⟩
    split at h
    case isTrue hc =>
      split at h
      · cases h
      · rename_i d after hfirst
        rw [hfirst] at htail
        split at h
        · rename_i hd
          cases h
          exact ⟨_, .emptyObject hblanks, by simp [hc, htail, hd]⟩
        · obtain ⟨members, hobject, hafter⟩ := hmembers _ _ h
          exact ⟨_, .object (hobject.blanks_append_object hblanks), by simp [hc, htail, hafter]⟩
    case isFalse => cases h

theorem passesItems_succ (hvalue : PassesValue steps) (hitems : PassesItems steps) :
    PassesItems (steps + 1) := by
  intro input rest h
  rw [skipItemsWithin] at h
  split at h
  · cases h
  · rename_i left hfirst
    obtain ⟨before, value, hbefore, hpart, rfl⟩ := hvalue _ _ hfirst
    split at h
    · cases h
    · rename_i c tail hskip
      obtain ⟨-, after, hafter, rfl⟩ := skipBlanks_eq_cons_iff.mp hskip
      split at h
      · rename_i hcomma
        obtain ⟨items, hlist, rfl⟩ := hitems _ _ h
        exact ⟨_, .item hbefore hpart hafter hlist, by simp [hcomma]⟩
      · split at h
        · rename_i hbracket
          cases h
          exact ⟨_, .lastItem hbefore hpart hafter, by simp [hbracket]⟩
        · cases h

theorem passesMembers_succ (hvalue : PassesValue steps) (hmembers : PassesMembers steps) :
    PassesMembers (steps + 1) := by
  intro input rest h
  rw [skipMembersWithin] at h
  split at h
  · cases h
  · rename_i afterKey hkey
    obtain ⟨start, key, gap, hstart, hraw, hgap, rfl⟩ := of_skipKey hkey
    split at h
    · cases h
    · rename_i left hfirst
      obtain ⟨before, value, hbefore, hpart, rfl⟩ := hvalue _ _ hfirst
      split at h
      · cases h
      · rename_i c tail hskip
        obtain ⟨-, after, hafter, rfl⟩ := skipBlanks_eq_cons_iff.mp hskip
        split at h
        · rename_i hcomma
          obtain ⟨members, hobject, rfl⟩ := hmembers _ _ h
          exact ⟨_, .member hstart (.body hraw) hgap hbefore hpart hafter hobject,
            by simp [hcomma]⟩
        · split at h
          · rename_i hbrace
            cases h
            exact ⟨_, .lastMember hstart (.body hraw) hgap hbefore hpart hafter,
              by simp [hbrace]⟩
          · cases h

/-- Whatever its bound, the reader passes over values only. -/
theorem passes (steps : Nat) : PassesValue steps ∧ PassesItems steps ∧ PassesMembers steps := by
  induction steps with
  | zero =>
    refine ⟨?_, ?_, ?_⟩ <;>
    · intro input rest h
      cases h
  | succ steps ih =>
    obtain ⟨hvalue, hitems, hmembers⟩ := ih
    exact ⟨passesValue_succ hitems hmembers, passesItems_succ hvalue hitems,
      passesMembers_succ hvalue hmembers⟩

theorem isValue_of_skipValue (h : skipValue input = .ok rest) :
    ∃ before value, IsBlanks before ∧ IsValue value ∧ input = before ++ (value ++ rest) :=
  (passes _).1 input rest h

/-! ## Completeness -/

theorem skipBlanks_idem (input : List Char) : skipBlanks (skipBlanks input) = skipBlanks input := by
  obtain ⟨before, hbefore, hinput⟩ := exists_blanks input
  rw [← skipBlanks_append hbefore, ← hinput]

theorem skipValueWithin_skipBlanks (steps : Nat) (input : List Char) :
    skipValueWithin steps (skipBlanks input) = skipValueWithin steps input := by
  cases steps with
  | zero => rfl
  | succ steps => rw [skipValueWithin, skipValueWithin, skipBlanks_idem]

theorem skipItemsWithin_skipBlanks (steps : Nat) (input : List Char) :
    skipItemsWithin steps (skipBlanks input) = skipItemsWithin steps input := by
  cases steps with
  | zero => rfl
  | succ steps => rw [skipItemsWithin, skipItemsWithin, skipValueWithin_skipBlanks]

theorem skipMembersWithin_skipBlanks (steps : Nat) (input : List Char) :
    skipMembersWithin steps (skipBlanks input) = skipMembersWithin steps input := by
  cases steps with
  | zero => rfl
  | succ steps => rw [skipMembersWithin, skipMembersWithin, skipKey, skipKey, skipBlanks_idem]

/-- A character that ends a list or an object or that separates two of its parts. -/
def isDelimiter (c : Char) : Bool := c = ',' || c = ']' || c = '}'

theorem endsNumber_of_isDelimiter {c : Char} (hc : isDelimiter c = true) :
    EndsNumber (c :: rest) := by
  intro d hd
  obtain rfl : c = d := by simpa using hd
  simp only [isDelimiter, Bool.or_eq_true, decide_eq_true_eq] at hc
  rcases hc with (rfl | rfl) | rfl <;> decide

/-- A number ends before blanks. -/
theorem IsBlanks.endsNumber {after : List Char} (hafter : IsBlanks after)
    (hrest : EndsNumber rest) : EndsNumber (after ++ rest) := by
  cases after with
  | nil => exact hrest
  | cons c later =>
    intro d hd
    obtain rfl : c = d := by simpa using hd
    have hblank := hafter c (by simp)
    simp only [isBlank, Bool.or_eq_true, decide_eq_true_eq] at hblank
    rcases hblank with ((rfl | rfl) | rfl) | rfl <;> decide

theorem IsUnsigned.exists_cons {number : List Char} (h : IsUnsigned number) :
    ∃ c later, number = c :: later ∧ c.isDigit = true := by
  cases h with
  | mk hwhole =>
    obtain ⟨c, later, rfl, hc⟩ := hwhole.exists_cons
    exact ⟨c, _, rfl, hc⟩

theorem isDelimiter_of_isDigit {c : Char} (h : c.isDigit = true) : isDelimiter c = false := by
  have hcomma : c ≠ ',' := ne_of_isDigit h rfl
  have hbracket : c ≠ ']' := ne_of_isDigit h rfl
  have hbrace : c ≠ '}' := ne_of_isDigit h rfl
  simp [isDelimiter, hcomma, hbracket, hbrace]

/-- A value begins with a character that is neither a blank nor a delimiter. -/
theorem IsValue.exists_cons {value : List Char} (h : IsValue value) :
    ∃ c later, value = c :: later ∧ isBlank c = false ∧ isDelimiter c = false := by
  cases h with
  | positive hnumber =>
    obtain ⟨c, later, rfl, hc⟩ := hnumber.exists_cons
    exact ⟨c, later, rfl, isBlank_of_isDigit hc, isDelimiter_of_isDigit hc⟩
  | _ => exact ⟨_, _, rfl, rfl, rfl⟩

theorem IsValue.skipBlanks_append {value : List Char} (h : IsValue value) (rest : List Char) :
    ∃ c later, skipBlanks (value ++ rest) = c :: later ∧ isDelimiter c = false := by
  obtain ⟨c, later, rfl, hblank, hdelimiter⟩ := h.exists_cons
  exact ⟨c, later ++ rest, skipBlanks_cons hblank _, hdelimiter⟩

/-- The items of a list do not begin with its closing bracket. -/
theorem skipBlanks_of_list {items : List Char} (h : IsPart .list items) (rest : List Char) :
    ∃ c later, skipBlanks (items ++ rest) = c :: later ∧ c ≠ ']' := by
  obtain ⟨before, value, after, hbefore, hvalue, rfl⟩ : ∃ before value after, IsBlanks before ∧
      IsValue value ∧ items = before ++ (value ++ after) := by
    cases h with
    | lastItem hbefore hvalue => exact ⟨_, _, _, hbefore, hvalue, List.append_assoc _ _ _⟩
    | item hbefore hvalue =>
      exact ⟨_, _, _, hbefore, hvalue, by rw [List.append_assoc, List.append_assoc]⟩
  obtain ⟨c, later, hskip, hdelimiter⟩ := hvalue.skipBlanks_append (after ++ rest)
  refine ⟨c, later, ?_, ?_⟩
  · rw [List.append_assoc, List.append_assoc, skipBlanks_append hbefore, hskip]
  · rintro rfl
    cases hdelimiter

/-- The members of an object begin with a quote. -/
theorem skipBlanks_of_object {members : List Char} (h : IsPart .object members)
    (rest : List Char) : ∃ later, skipBlanks (members ++ rest) = '"' :: later := by
  cases h with
  | lastMember hstart | member hstart =>
    simp only [List.append_assoc, List.cons_append]
    exact ⟨_, by rw [skipBlanks_append hstart, skipBlanks_cons rfl]⟩

theorem skipValueWithin_append {before : List Char} (hbefore : IsBlanks before)
    (input : List Char) :
    skipValueWithin steps (before ++ input) = skipValueWithin steps input := by
  rw [← skipValueWithin_skipBlanks, skipBlanks_append hbefore, skipValueWithin_skipBlanks]

/-- A part is passed over in twice as many steps as it has characters, and those of a list
or an object in one step more. -/
def IsPassed : Part → List Char → Prop
  | .value, value => ∀ steps rest, 2 * value.length ≤ steps → EndsNumber rest →
      skipValueWithin steps (value ++ rest) = .ok rest
  | .text, body => IsRawText body
  | .list, items => ∀ steps rest, 2 * items.length + 1 ≤ steps →
      skipItemsWithin steps (items ++ ']' :: rest) = .ok rest
  | .object, members => ∀ steps rest, 2 * members.length + 1 ≤ steps →
      skipMembersWithin steps (members ++ '}' :: rest) = .ok rest

/-! ### One step

Something is passed over in any number of steps that is large enough if the first of them can be
taken and the others are enough for the rest. -/

theorem IsPassed.value_of_succ {value : List Char} (hne : value ≠ [])
    (h : ∀ steps rest, 2 * value.length ≤ steps + 1 → EndsNumber rest →
      skipValueWithin (steps + 1) (value ++ rest) = .ok rest) : IsPassed .value value := by
  intro steps rest hsteps hrest
  have hlength := List.length_pos_iff.mpr hne
  obtain ⟨steps, rfl⟩ := Nat.exists_eq_add_one.mpr (show 0 < steps by omega)
  exact h steps rest hsteps hrest

theorem IsPassed.list_of_succ {items : List Char}
    (h : ∀ steps rest, 2 * items.length ≤ steps →
      skipItemsWithin (steps + 1) (items ++ ']' :: rest) = .ok rest) : IsPassed .list items := by
  intro steps rest hsteps
  obtain ⟨steps, rfl⟩ := Nat.exists_eq_add_one.mpr (show 0 < steps by omega)
  exact h steps rest (by omega)

theorem IsPassed.object_of_succ {members : List Char}
    (h : ∀ steps rest, 2 * members.length ≤ steps →
      skipMembersWithin (steps + 1) (members ++ '}' :: rest) = .ok rest) :
    IsPassed .object members := by
  intro steps rest hsteps
  obtain ⟨steps, rfl⟩ := Nat.exists_eq_add_one.mpr (show 0 < steps by omega)
  exact h steps rest (by omega)

/-! ### Values -/

theorem isPassed_number {number : List Char} (hnumber : IsUnsigned number) :
    IsPassed .value number := by
  obtain ⟨c, later, rfl, hc⟩ := hnumber.exists_cons
  refine .value_of_succ (by simp) fun steps rest _ hrest => ?_
  have hskip := skipNumber_of_isUnsigned hnumber hrest
  have hn : c ≠ 'n' := ne_of_isDigit hc rfl
  have ht : c ≠ 't' := ne_of_isDigit hc rfl
  have hf : c ≠ 'f' := ne_of_isDigit hc rfl
  have hsign : c ≠ '-' := ne_of_isDigit hc rfl
  rw [List.cons_append] at hskip ⊢
  rw [skipValueWithin, skipBlanks_cons (isBlank_of_isDigit hc)]
  simpa [hn, ht, hf, hsign, hc] using hskip

theorem isPassed_negative {number : List Char} (hnumber : IsUnsigned number) :
    IsPassed .value ('-' :: number) := by
  refine .value_of_succ (by simp) fun steps rest _ hrest => ?_
  have hskip := skipNumber_of_isUnsigned hnumber hrest
  simpa [skipValueWithin, skipBlanks_cons, isBlank] using hskip

theorem isPassed_text {body : List Char} (hbody : IsRawText body) :
    IsPassed .value ('"' :: body ++ ['"']) := by
  refine .value_of_succ (by simp) fun steps rest _ _ => ?_
  have hskip := skipText_of_isRawText hbody rest
  simpa [skipValueWithin, skipBlanks_cons, isBlank] using hskip

theorem isPassed_list {items : List Char} (hitems : IsPart .list items)
    (hpassed : IsPassed .list items) : IsPassed .value ('[' :: items ++ [']']) := by
  refine .value_of_succ (by simp) fun steps rest hsteps _ => ?_
  simp only [List.length_cons, List.length_append, List.length_nil] at hsteps
  obtain ⟨c, later, hfirst, hc⟩ := skipBlanks_of_list hitems (']' :: rest)
  have hskip : skipItemsWithin steps (c :: later) = .ok rest := by
    rw [← hfirst, skipItemsWithin_skipBlanks]
    exact hpassed steps rest (by omega)
  simp [skipValueWithin, skipBlanks_cons, isBlank, hfirst, hc, hskip]

theorem isPassed_object {members : List Char} (hmembers : IsPart .object members)
    (hpassed : IsPassed .object members) : IsPassed .value ('{' :: members ++ ['}']) := by
  refine .value_of_succ (by simp) fun steps rest hsteps _ => ?_
  simp only [List.length_cons, List.length_append, List.length_nil] at hsteps
  obtain ⟨later, hfirst⟩ := skipBlanks_of_object hmembers ('}' :: rest)
  have hskip : skipMembersWithin steps ('"' :: later) = .ok rest := by
    rw [← hfirst, skipMembersWithin_skipBlanks]
    exact hpassed steps rest (by omega)
  simp [skipValueWithin, skipBlanks_cons, isBlank, hfirst, hskip]

/-! ### Items and members -/

section Entries

variable {start key gap before value after : List Char}

/-- Passing over a value that blanks and a delimiter follow. -/
theorem skipValueWithin_item {c : Char} (hpassed : IsPassed .value value)
    (hbefore : IsBlanks before) (hafter : IsBlanks after) (hc : isDelimiter c = true)
    (rest : List Char) (hsteps : 2 * value.length ≤ steps) :
    skipValueWithin steps (before ++ (value ++ (after ++ c :: rest))) =
      .ok (after ++ c :: rest) := by
  rw [skipValueWithin_append hbefore]
  exact hpassed steps _ hsteps (hafter.endsNumber (endsNumber_of_isDelimiter hc))

/-- After an item the list goes on or ends. -/
theorem skipItemsWithin_item (hpassed : IsPassed .value value) (hbefore : IsBlanks before)
    (hafter : IsBlanks after) (rest : List Char) (hsteps : 2 * value.length ≤ steps) :
    skipItemsWithin (steps + 1) (before ++ (value ++ (after ++ ',' :: rest))) =
        skipItemsWithin steps rest ∧
      skipItemsWithin (steps + 1) (before ++ (value ++ (after ++ ']' :: rest))) = .ok rest := by
  have hnext := skipValueWithin_item (c := ',') hpassed hbefore hafter rfl rest hsteps
  have hlast := skipValueWithin_item (c := ']') hpassed hbefore hafter rfl rest hsteps
  simp [skipItemsWithin, hnext, hlast, skipBlanks_append hafter, skipBlanks_cons, isBlank]

/-- After a member the object goes on or ends. -/
theorem skipMembersWithin_member (hstart : IsBlanks start) (hkey : IsRawText key)
    (hgap : IsBlanks gap) (hpassed : IsPassed .value value) (hbefore : IsBlanks before)
    (hafter : IsBlanks after) (rest : List Char) (hsteps : 2 * value.length ≤ steps) :
    skipMembersWithin (steps + 1) (start ++ '"' :: (key ++ '"' :: (gap ++ ':' ::
        (before ++ (value ++ (after ++ ',' :: rest)))))) = skipMembersWithin steps rest ∧
      skipMembersWithin (steps + 1) (start ++ '"' :: (key ++ '"' :: (gap ++ ':' ::
        (before ++ (value ++ (after ++ '}' :: rest)))))) = .ok rest := by
  have hfirst := skipKey_of_isRawText hstart hkey hgap
  have hnext := skipValueWithin_item (c := ',') hpassed hbefore hafter rfl rest hsteps
  have hlast := skipValueWithin_item (c := '}') hpassed hbefore hafter rfl rest hsteps
  simp [skipMembersWithin, hfirst, hnext, hlast, skipBlanks_append hafter, skipBlanks_cons,
    isBlank]

end Entries

/-! ### All parts -/

theorem isPassed_of_isPart {part : Part} {chars : List Char} (h : IsPart part chars) :
    IsPassed part chars := by
  induction h with
  | null | true | false =>
    refine .value_of_succ (by simp) fun steps rest _ _ => ?_
    simp [skipValueWithin, skipBlanks_cons, isBlank, readWord]
  | positive hnumber => exact isPassed_number hnumber
  | negative hnumber => exact isPassed_negative hnumber
  | text _ hbody => exact isPassed_text hbody
  | emptyList hblanks | emptyObject hblanks =>
    refine .value_of_succ (by simp) fun steps rest _ _ => ?_
    simp [skipValueWithin, skipBlanks_cons, isBlank, skipBlanks_append hblanks]
  | list hitems ih => exact isPassed_list hitems ih
  | object hmembers ih => exact isPassed_object hmembers ih
  | body hbody => exact hbody
  | @lastItem _ value _ hbefore _ hafter ih =>
    refine .list_of_succ fun steps rest hsteps => ?_
    simp only [List.length_append] at hsteps
    have hvalue : 2 * value.length ≤ steps := by omega
    simpa using (skipItemsWithin_item ih hbefore hafter rest hvalue).2
  | @item _ value _ items hbefore _ hafter _ ih ihItems =>
    refine .list_of_succ fun steps rest hsteps => ?_
    simp only [List.length_append, List.length_cons] at hsteps
    have hvalue : 2 * value.length ≤ steps := by omega
    have hnext := (skipItemsWithin_item ih hbefore hafter (items ++ ']' :: rest) hvalue).1
    simpa using hnext.trans (ihItems steps rest (by omega))
  | @lastMember _ _ _ _ value _ hstart _ hgap hbefore _ hafter hkey ih =>
    refine .object_of_succ fun steps rest hsteps => ?_
    simp only [List.length_append, List.length_cons] at hsteps
    have hvalue : 2 * value.length ≤ steps := by omega
    simpa using (skipMembersWithin_member hstart hkey hgap ih hbefore hafter rest hvalue).2
  | @member _ _ _ _ value _ members hstart _ hgap hbefore _ hafter _ hkey ih ihMembers =>
    refine .object_of_succ fun steps rest hsteps => ?_
    simp only [List.length_append, List.length_cons] at hsteps
    have hvalue : 2 * value.length ≤ steps := by omega
    have hnext := (skipMembersWithin_member hstart hkey hgap ih hbefore hafter
      (members ++ '}' :: rest) hvalue).1
    simpa using hnext.trans (ihMembers steps rest (by omega))

theorem skipValue_of_isValue {before value : List Char} (hbefore : IsBlanks before)
    (h : IsValue value) (hrest : EndsNumber rest) :
    skipValue (before ++ (value ++ rest)) = .ok rest := by
  have hpassed : IsPassed .value value := isPassed_of_isPart h
  rw [skipValue, skipValueWithin_append hbefore]
  refine hpassed _ rest ?_ hrest
  simp only [List.length_append]
  omega

/-- Values that nobody asks for are passed over, whatever they are. -/
theorem reads_any :
    Reads (fun input => (skipValue input).map ((), ·)) (fun _ value => IsValue value) where
  sound := by
    intro input rest _ h
    cases hskip : skipValue input with
    | error e => simp [hskip, Except.map] at h
    | ok left =>
      obtain rfl : left = rest := by simpa [hskip, Except.map] using h
      exact isValue_of_skipValue hskip
  complete := by
    intro before value rest _ hbefore hvalue hrest
    simp [skipValue_of_isValue hbefore hvalue hrest, Except.map]

end RemoteShell.Json

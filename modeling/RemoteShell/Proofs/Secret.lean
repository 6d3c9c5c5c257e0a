import RemoteShell.Proofs.Text.Utf8
import RemoteShell.Secret

/-!
# What passes for a secret

Differences are only ever added to those that have been found, so none of them takes
another one back. Hence nothing but the secret passes for it (`isSecret_iff`), and a key
is known by its bytes (`isKey_iff`).

The comparison is also stated as the loop it is (`addDifferences`): a round is one place of
the expected secret, and a loop that has found nothing at its end had found nothing before
and has seen the expected byte at every place (`only_the_secret_passes`).
-/

namespace RemoteShell

variable {expected given : List UInt8}

/-- Bytes without a difference are the same, if there are as many of them. -/
theorem differences_eq_zero_iff (h : expected.length = given.length) :
    differences expected given = 0 ↔ expected = given := by
  induction expected generalizing given with
  | nil => simpa [differences, eq_comm] using h
  | cons e expected ih =>
    cases given with
    | nil => cases h
    | cons g given =>
      have hrest : differences expected given = 0 ↔ expected = given := ih (Nat.succ.inj h)
      rw [differences, UInt8.or_eq_zero_iff, List.headD_cons, UInt8.xor_eq_zero_iff, List.tail_cons,
        hrest, List.cons.injEq]

/-- The secret passes for itself, and nothing else does. -/
theorem isSecret_iff : isSecret expected given = true ↔ expected = given := by
  rw [isSecret, decide_eq_true_iff, UInt8.or_eq_zero_iff]
  by_cases hlength : expected.length = given.length
  · simp [hlength, differences_eq_zero_iff]
  · have hne : expected ≠ given := fun h => hlength (congrArg List.length h)
    simp [hlength, hne]

/-- One round of the comparison. What differs at a place is added to what has been found;
a byte that is not there counts as all ones. -/
def addDifferences (given : List UInt8) (found : UInt8) (item : UInt8 × Nat) : UInt8 :=
  found ||| (item.1 ^^^ given[item.2]?.getD 0xff)

/-- The rounds from some place on add the differences from there on. -/
theorem foldl_addDifferences (found : UInt8) (start : Nat) :
    (expected.zipIdx start).foldl (addDifferences given) found =
      found ||| differences expected (given.drop start) := by
  induction expected generalizing found start with
  | nil => simp [differences]
  | cons e expected ih =>
    have hhead : given[start]?.getD 0xff = (given.drop start).headD 0xff := by
      rw [List.headD_eq_head?_getD, List.head?_drop]
    rw [List.zipIdx_cons, List.foldl_cons, ih, addDifferences, differences, hhead, List.tail_drop,
      UInt8.or_assoc]

/-- There is no difference if the expected byte stands at every place. -/
theorem differences_eq_zero_iff_getElem? :
    differences expected given = 0 ↔
      ∀ (place : Nat) (h : place < expected.length),
        given[place]?.getD 0xff = expected[place] := by
  induction expected generalizing given with
  | nil => simp [differences]
  | cons e expected ih =>
    have hhead : given.headD 0xff = given[0]?.getD 0xff := by
      rw [List.headD_eq_head?_getD, List.head?_eq_getElem?]
    rw [differences, UInt8.or_eq_zero_iff, UInt8.xor_eq_zero_iff, ih, hhead]
    constructor
    · rintro ⟨hfirst, hrest⟩ (_ | place) h
      · exact hfirst.symm
      · simpa using hrest place (Nat.lt_of_succ_lt_succ h)
    · intro h
      refine ⟨(h 0 (Nat.succ_pos _)).symm, fun place hplace => ?_⟩
      simpa using h (place + 1) (Nat.succ_lt_succ hplace)

/-- A comparison is a loop over the places of the expected secret. It ends without a
difference only if it began without one and the expected byte stands at every place:
whatever has been found is never taken back. So exactly the secret passes, and nothing
that goes on after it or stops before it does. -/
theorem only_the_secret_passes (expected given : List UInt8) :
    (isSecret expected given = true ↔ expected = given) ∧
      isSecret expected given =
        decide (expected.zipIdx.foldl (addDifferences given)
          (if expected.length = given.length then 0 else 1) = 0) ∧
      (∀ found : UInt8, expected.zipIdx.foldl (addDifferences given) found = 0 ↔
        found = 0 ∧ ∀ (place : Nat) (h : place < expected.length),
          given[place]?.getD 0xff = expected[place]) ∧
      ∀ more : List UInt8, more ≠ [] →
        isSecret expected (expected ++ more) = false ∧
          isSecret (expected ++ more) expected = false := by
  refine ⟨isSecret_iff, ?_, fun found => ?_, fun more hmore => ?_⟩
  · rw [foldl_addDifferences, List.drop_zero, isSecret]
  · rw [foldl_addDifferences, List.drop_zero, UInt8.or_eq_zero_iff,
      differences_eq_zero_iff_getElem?]
  · have hne : expected ≠ expected ++ more := by simpa using hmore
    exact ⟨Bool.eq_false_iff.mpr (mt isSecret_iff.mp hne),
      Bool.eq_false_iff.mpr (mt isSecret_iff.mp hne.symm)⟩

/-- Differences in two places do not cancel. -/
example : isSecret [1, 2] [3, 0] = false := by decide

/-- A key passes for another one only if they are the same. -/
theorem isKey_iff {expected given : String} : isKey expected given = true ↔ expected = given := by
  rw [isKey, isSecret_iff, Text.utf8_inj, String.toList_inj]

end RemoteShell

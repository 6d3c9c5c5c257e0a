import RemoteShell.Proofs.Shells.Detection

/-!
# The shell instead of a missing one

The names of one shell are collapsed before they are put in order of preference. So a shell
that is missing is replaced by the best of the first names, and a better name that is not the
first one of its shell is passed over (`fallback_is_best_iff`).
-/

namespace RemoteShell.Shells

variable {tree : FileTree} {directory : List String} {shell requested : String}

/-- The fallback is a first name, and no first name is better. -/
theorem rank_le_of_resolve (hmissing : tree.contains directory requested = false)
    (hshell : resolve tree requested directory = some shell) :
    IsFirstName tree directory shell ∧
      ∀ path, IsFirstName tree directory path → rank shell ≤ rank path := by
  rw [resolve_of_missing hmissing] at hshell
  refine ⟨mem_detect_iff.mp (List.mem_of_head? hshell), fun path hpath => ?_⟩
  obtain ⟨later, hdetect⟩ := List.head?_eq_some_iff.mp hshell
  have hsorted := pairwise_rank_detect tree directory
  have hpath := mem_detect_iff.mpr hpath
  rw [hdetect] at hsorted hpath
  obtain rfl | hlater := List.mem_cons.mp hpath
  · exact Nat.le_refl _
  · exact List.rel_of_pairwise_cons hsorted hlater

/-- A shell that is asked for and missing is replaced if anything can be offered, and by the
best of the first names. No shell that can be offered is better than that if and only if one
of the best of them is the first name of its shell. -/
theorem fallback_is_best_iff (hmissing : tree.contains directory requested = false) :
    (resolve tree requested directory = none ↔ ∀ path, ¬ Offers tree directory path) ∧
      ∀ shell, resolve tree requested directory = some shell →
        Offers tree directory shell ∧
          (∀ path, IsFirstName tree directory path → rank shell ≤ rank path) ∧
          ((∀ path, Offers tree directory path → rank shell ≤ rank path) ↔
            ∃ best, IsFirstName tree directory best ∧
              ∀ path, Offers tree directory path → rank best ≤ rank path) := by
  refine ⟨?_, fun shell hshell => ?_⟩
  · simp only [resolve_eq_none_iff, hmissing, true_and, List.eq_nil_iff_forall_not_mem,
      mem_candidates_iff]
  · obtain ⟨hfirst, hleast⟩ := rank_le_of_resolve hmissing hshell
    refine ⟨mem_candidates_iff.mp (List.mem_of_find?_eq_some hfirst), hleast, ?_, ?_⟩
    · exact fun hbest => ⟨shell, hfirst, hbest⟩
    · rintro ⟨best, hbest, hrank⟩ path hpath
      exact Nat.le_trans (hleast best hbest) (hrank path hpath)

/-- Where bash is listed first, it replaces a shell that is missing. -/
theorem fallback_is_best_of_bash_first :
    let host := linkedHost "/bin/bash\n/bin/sh\n/bin/zsh\n"
    host.contains [] "/bin/fish" = false ∧ ∃ shell, resolve host "/bin/fish" = some shell ∧
      ∀ path, Offers host [] path → rank shell ≤ rank path := by
  intro host
  have hmissing : host.contains [] "/bin/fish" = false := (contains_linkedHost _).2.2.2
  have hcandidates : candidates host = ["/bin/bash", "/bin/sh", "/bin/zsh"] :=
    candidates_linkedHost (by decide +kernel) (by simp) (by simp)
  have hfirst : IsFirstName host [] "/bin/bash" := by simp [IsFirstName, hcandidates]
  have hbash : rank "/bin/bash" = 0 := rfl
  obtain ⟨hnone, hsome⟩ := fallback_is_best_iff hmissing
  cases hshell : resolve host "/bin/fish" with
  | none => exact absurd (mem_candidates_iff.mp (by simp [hcandidates])) (hnone.mp hshell "/bin/sh")
  | some shell =>
    refine ⟨hmissing, shell, rfl, (hsome shell hshell).2.2.mpr ⟨"/bin/bash", hfirst, ?_⟩⟩
    exact fun path _ => hbash ▸ Nat.zero_le _

/-- Where `/bin/sh` is another name of bash and listed first, a shell that is missing is
replaced by zsh, though `/bin/bash` exists and is listed. -/
theorem zsh_replaces_though_bash_exists :
    let host := linkedHost "/bin/sh\n/bin/bash\n/bin/zsh\n"
    host.contains [] "/bin/fish" = false ∧ Offers host [] "/bin/bash" ∧
      resolve host "/bin/fish" = some "/bin/zsh" ∧ rank "/bin/bash" < rank "/bin/zsh" := by
  intro host
  have hmissing : host.contains [] "/bin/fish" = false := (contains_linkedHost _).2.2.2
  have hcandidates : candidates host = ["/bin/sh", "/bin/bash", "/bin/zsh"] :=
    candidates_linkedHost (by decide +kernel) (by simp) (by simp)
  have hranks : rank "/bin/sh" = 4 ∧ rank "/bin/bash" = 0 ∧ rank "/bin/zsh" = 1 := by
    decide
  obtain ⟨hsh, hbash, hzsh⟩ := canonical?_linkedHost "/bin/sh\n/bin/bash\n/bin/zsh\n"
  have hdetect : detect host = ["/bin/zsh", "/bin/sh"] := by
    simp [detect, hcandidates, firstByKey, identity, host, hsh, hbash, hzsh, List.mergeSort, hranks]
  refine ⟨hmissing, mem_candidates_iff.mp (by simp [hcandidates]), ?_, by simp [hranks]⟩
  rw [resolve_of_missing hmissing, hdetect]
  rfl

end RemoteShell.Shells

import RemoteShell.Proofs.Shells.Candidates
import RemoteShell.Proofs.Sorting

/-!
# The shells that are detected

The names of one shell are collapsed to the first of them, and these are put in order of
preference, which goes by the last name of a path (`rank_of_isLastName`). So every shell that can
be offered is detected just once (`each_shell_is_detected_once`).
-/

namespace RemoteShell.Shells

variable {tree : FileTree} {directory : List String} {path shell requested : String}

/-! ## The first item with a key -/

section FirstByKey

variable (key : String → String) {seen : List String} {k : String}

theorem firstByKey_sublist (seen items : List String) :
    (firstByKey key seen items).Sublist items := by
  induction items generalizing seen with
  | nil => exact List.Sublist.refl _
  | cons item items ih =>
    rw [firstByKey]
    split
    · exact (ih _).cons _
    · exact (ih _).cons_cons _

theorem key_notMem_of_mem_firstByKey {seen items : List String} {item : String}
    (h : item ∈ firstByKey key seen items) : key item ∉ seen := by
  induction items generalizing seen with
  | nil => cases h
  | cons next items ih =>
    rw [firstByKey] at h
    split at h
    · exact ih h
    · rename_i hnew
      obtain rfl | hlater := List.mem_cons.mp h
      · simpa using hnew
      · exact fun hmem => ih hlater (List.mem_cons_of_mem _ hmem)

theorem nodup_map_firstByKey (seen items : List String) :
    ((firstByKey key seen items).map key).Nodup := by
  induction items generalizing seen with
  | nil => exact List.nodup_nil
  | cons item items ih =>
    rw [firstByKey]
    split
    · exact ih seen
    · refine List.nodup_cons.mpr ⟨fun hmem => ?_, ih _⟩
      obtain ⟨other, hother, hkey⟩ := List.mem_map.mp hmem
      exact key_notMem_of_mem_firstByKey key hother (hkey ▸ List.mem_cons_self)

/-- Of the items with one key the first is kept, unless the key was seen before. -/
theorem filter_firstByKey (items : List String) (hnew : k ∉ seen) :
    (firstByKey key seen items).filter (key · = k) = (items.find? (key · = k)).toList := by
  induction items generalizing seen with
  | nil => rfl
  | cons item items ih =>
    rw [firstByKey]
    by_cases hkey : key item = k
    · subst hkey
      have hlater : (firstByKey key (key item :: seen) items).filter (key · = key item) = [] := by
        refine List.filter_eq_nil_iff.mpr fun other hother heq => ?_
        refine key_notMem_of_mem_firstByKey key hother ?_
        rw [of_decide_eq_true heq]
        exact List.mem_cons_self
      rw [if_neg (by simpa using hnew), List.filter_cons_of_pos (by simp), hlater,
        List.find?_cons_of_pos (by simp)]
      rfl
    · rw [List.find?_cons_of_neg (by simpa using hkey)]
      split
      · exact ih hnew
      · rw [List.filter_cons_of_neg (by simpa using hkey)]
        exact ih (by simp [hnew, Ne.symm hkey])

end FirstByKey

/-! ## Detection -/

theorem detect_perm (tree : FileTree) (directory : List String) :
    (detect tree directory).Perm
      (firstByKey (identity tree directory) [] (candidates tree directory)) :=
  List.mergeSort_perm ..

theorem mem_candidates_of_mem_detect (h : path ∈ detect tree directory) :
    path ∈ candidates tree directory :=
  (firstByKey_sublist ..).subset ((detect_perm ..).mem_iff.mp h)

theorem pairwise_rank_detect (tree : FileTree) (directory : List String) :
    (detect tree directory).Pairwise (rank · ≤ rank ·) :=
  Sorting.pairwise_mergeSort rank _

/-- Shells of one rank are detected in the order of the candidates. -/
theorem filter_rank_detect_sublist (tree : FileTree) (directory : List String) (r : Nat) :
    ((detect tree directory).filter (rank · = r)).Sublist (candidates tree directory) := by
  rw [detect, Sorting.filter_mergeSort]
  exact List.filter_sublist.trans (firstByKey_sublist ..)

theorem nodup_map_canonical?_detect (tree : FileTree) (directory : List String) :
    ((detect tree directory).map (tree.canonical? directory)).Nodup := by
  have hidentity : ((detect tree directory).map (identity tree directory)).Nodup :=
    ((detect_perm tree directory).map _).nodup_iff.mpr (nodup_map_firstByKey ..)
  refine List.pairwise_map.mpr ((List.pairwise_map.mp hidentity).imp_of_mem ?_)
  intro path other hpath hother hne hsame
  exact hne ((canonical?_eq_iff (mem_candidates_of_mem_detect hother)
    (mem_candidates_of_mem_detect hpath)).mp hsame)

/-- Of all names of a shell just the first one is detected. -/
theorem filter_detect_of_mem (hpath : path ∈ candidates tree directory) :
    ∃ first, IsFirstName tree directory first ∧
      tree.canonical? directory first = tree.canonical? directory path ∧
      (detect tree directory).filter
        (tree.canonical? directory · = tree.canonical? directory path) = [first] := by
  have hfilter : (detect tree directory).filter
      (tree.canonical? directory · = tree.canonical? directory path) =
      (detect tree directory).filter
        (identity tree directory · = identity tree directory path) := by
    refine List.filter_congr fun other hother => decide_eq_decide.mpr ?_
    exact canonical?_eq_iff hpath (mem_candidates_of_mem_detect hother)
  have hfind : (candidates tree directory).find?
      (tree.canonical? directory · = tree.canonical? directory path) =
      (candidates tree directory).find?
        (identity tree directory · = identity tree directory path) := by
    rw [← List.head?_filter, ← List.head?_filter]
    refine congrArg List.head? (List.filter_congr fun other hother => decide_eq_decide.mpr ?_)
    exact canonical?_eq_iff hpath hother
  have hperm := (detect_perm tree directory).filter
    (identity tree directory · = identity tree directory path)
  rw [filter_firstByKey _ _ (by simp), ← hfilter, ← hfind] at hperm
  cases hfirst : (candidates tree directory).find?
      (tree.canonical? directory · = tree.canonical? directory path) with
  | none => simpa using List.find?_eq_none.mp hfirst path hpath
  | some first =>
    have hsame : tree.canonical? directory first = tree.canonical? directory path := by
      simpa using List.find?_some hfirst
    rw [hfirst] at hperm
    refine ⟨first, ?_, hsame, List.perm_singleton.mp hperm⟩
    rw [IsFirstName, hsame, hfirst]

/-- The shells that are detected are the first names. -/
theorem mem_detect_iff : path ∈ detect tree directory ↔ IsFirstName tree directory path := by
  constructor
  · intro hpath
    obtain ⟨first, hfirst, -, hfilter⟩ := filter_detect_of_mem (mem_candidates_of_mem_detect hpath)
    have hmem : path ∈ [first] := by
      rw [← hfilter]
      exact List.mem_filter.mpr ⟨hpath, by simp⟩
    rwa [List.mem_singleton.mp hmem]
  · intro hfirst
    have hmet := List.mem_of_find?_eq_some hfirst
    obtain ⟨first, hother, hsame, hfilter⟩ := filter_detect_of_mem hmet
    rw [IsFirstName, hsame, hfirst, Option.some.injEq] at hother
    have hmem : first ∈ [first] := List.mem_singleton_self first
    rw [← hfilter] at hmem
    exact hother ▸ (List.mem_filter.mp hmem).1

/-! ## Preference -/

/-- The names of shells, the most preferred first. -/
def preferred : List String := ["bash", "zsh", "ash", "dash", "sh"]

/-- A name stands at the end of a path, after its last slash. -/
def IsLastName (path name : String) : Prop :=
  '/' ∉ name.toList ∧ (path = name ∨ ∃ directory, path = directory ++ "/" ++ name)

theorem getLast?_split_of_isLastName {name : String} (h : IsLastName path name) :
    (Text.split '/' path).getLast? = some name := by
  have hname : name.toList.splitOn '/' = [name.toList] := List.splitOn_eq_singleton h.1
  obtain ⟨-, rfl | ⟨directory, rfl⟩⟩ := h
  · simp [Text.split, hname]
  · have hpath : (directory ++ "/" ++ name).toList = directory.toList ++ '/' :: name.toList := by
      simp
    rw [Text.split, hpath, List.splitOn_append_cons_self, hname]
    simp

/-- A path is preferred by its last name, and one with any other name comes last. -/
theorem rank_of_isLastName {name : String} (h : IsLastName path name) :
    rank path = preferred.idxOf name := by
  unfold rank
  rw [getLast?_split_of_isLastName h]
  split
  case h_6 hbash hzsh hash hdash hsh =>
    have hother : name ∉ preferred := by simp_all [preferred]
    exact (List.idxOf_eq_length hother).symm
  all_goals
    next hname =>
    cases hname
    rfl

/-! ## Resolution -/

theorem detect_eq_nil_iff : detect tree directory = [] ↔ candidates tree directory = [] := by
  constructor
  · intro hnone
    refine List.eq_nil_iff_forall_not_mem.mpr fun path hpath => ?_
    obtain ⟨first, hfirst, -⟩ := filter_detect_of_mem hpath
    rw [← mem_detect_iff, hnone] at hfirst
    cases hfirst
  · intro hnone
    exact List.eq_nil_iff_forall_not_mem.mpr fun path hpath => by
      simpa [hnone] using mem_candidates_of_mem_detect hpath

theorem resolve_of_missing (h : tree.contains directory requested = false) :
    resolve tree requested directory = (detect tree directory).head? := by
  rw [resolve, if_neg (by simp [h])]

theorem resolve_eq_none_iff : resolve tree requested directory = none ↔
    tree.contains directory requested = false ∧ candidates tree directory = [] := by
  cases hexists : tree.contains directory requested with
  | true => simp [resolve, hexists]
  | false => simp [resolve_of_missing hexists, detect_eq_nil_iff]

theorem contains_of_resolve (h : resolve tree requested directory = some shell) :
    tree.contains directory shell = true := by
  cases hexists : tree.contains directory requested with
  | true =>
    rw [resolve, if_pos hexists, Option.some.injEq] at h
    rwa [← h]
  | false =>
    rw [resolve_of_missing hexists] at h
    exact contains_of_mem_candidates (mem_candidates_of_mem_detect (List.mem_of_head? h))

/-! ## What is found -/

/-- What can be offered is what exists of the list, in the order of its lines, or of the common
shells if nothing of the list does. All that is detected can be offered; no two results lead
to the same shell; of all names of a shell just the first one is a result; better ones come
first, and equally good ones in the order of the candidates. A shell that is asked for is
taken if it exists, else the first result; there is none if and only if neither that shell
nor anything to look for exists; and what is taken exists. -/
theorem each_shell_is_detected_once (tree : FileTree) (directory : List String) :
    (∀ path, path ∈ candidates tree directory ↔ Offers tree directory path) ∧
      (∃ names, (∀ other, ListNames tree other ↔ other = names) ∧
        candidates tree directory =
          if ∃ path ∈ names, tree.contains directory path = true then
            names.filter (tree.contains directory)
          else commonShells.filter (tree.contains directory)) ∧
      (∀ path ∈ detect tree directory, Offers tree directory path) ∧
      ((detect tree directory).map (tree.canonical? directory)).Nodup ∧
      (∀ path, Offers tree directory path → ∃ first, IsFirstName tree directory first ∧
        (tree.canonical? directory path).isSome ∧
        (detect tree directory).filter
          (tree.canonical? directory · = tree.canonical? directory path) = [first]) ∧
      (∀ path name, IsLastName path name → rank path = preferred.idxOf name) ∧
      (detect tree directory).Pairwise (rank · ≤ rank ·) ∧
      (∀ r, ((detect tree directory).filter (rank · = r)).Sublist (candidates tree directory)) ∧
      ∀ requested,
        resolve tree requested directory =
            (if tree.contains directory requested then some requested
            else (detect tree directory).head?) ∧
          (resolve tree requested directory = none ↔
            tree.contains directory requested = false ∧
              ∀ path, Lists tree path ∨ path ∈ commonShells →
                tree.contains directory path = false) ∧
          ∀ shell, resolve tree requested directory = some shell →
            tree.contains directory shell = true := by
  refine ⟨fun _ => mem_candidates_iff,
    ⟨_, fun _ => listNames_iff, candidates_eq tree directory⟩, fun path hpath => ?_,
    nodup_map_canonical?_detect tree directory, fun path hoffers => ?_,
    fun _ _ => rank_of_isLastName, pairwise_rank_detect tree directory,
    filter_rank_detect_sublist tree directory,
    fun requested => ⟨rfl, ?_, fun shell => contains_of_resolve⟩⟩
  · exact mem_candidates_iff.mp (mem_candidates_of_mem_detect hpath)
  · obtain ⟨first, hfirst, -, hfilter⟩ := filter_detect_of_mem (mem_candidates_iff.mpr hoffers)
    exact ⟨first, hfirst, by simp [canonical?_of_contains hoffers.1], hfilter⟩
  · rw [resolve_eq_none_iff, candidates_eq_nil_iff]

/-- Where `/bin/sh` is another name of bash and listed first, bash is found as that. -/
theorem bash_is_detected_as_sh :
    let host := linkedHost "# shells\n\n /bin/sh \n/bin/bash\n/bin/zsh\n"
    Offers host [] "/bin/bash" ∧
      (detect host).filter (host.canonical? [] · = host.canonical? [] "/bin/bash") =
        ["/bin/sh"] := by
  intro host
  obtain ⟨hsh, hbash, hzsh⟩ := canonical?_linkedHost "# shells\n\n /bin/sh \n/bin/bash\n/bin/zsh\n"
  have hcandidates : candidates host = ["/bin/sh", "/bin/bash", "/bin/zsh"] :=
    candidates_linkedHost (by decide +kernel) (by simp) (by simp)
  obtain ⟨hiff, -, -, -, hfound, -⟩ := each_shell_is_detected_once host []
  have hoffers : Offers host [] "/bin/bash" := (hiff "/bin/bash").mp (by simp [hcandidates])
  obtain ⟨first, hfirst, -, hfilter⟩ := hfound "/bin/bash" hoffers
  have hmem : first ∈ [first] := List.mem_singleton_self first
  rw [← hfilter] at hmem
  have hsame : host.canonical? [] first = host.canonical? [] "/bin/bash" :=
    of_decide_eq_true (List.mem_filter.mp hmem).2
  rw [IsFirstName, hsame, hcandidates, List.find?_cons_of_pos (by simp [host, hsh, hbash]),
    Option.some.injEq] at hfirst
  exact ⟨hoffers, hfirst ▸ hfilter⟩

end RemoteShell.Shells

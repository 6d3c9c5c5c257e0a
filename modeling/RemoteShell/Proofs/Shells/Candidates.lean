import RemoteShell.Proofs.Shells.Lines
import RemoteShell.Proofs.Text.Utf8Reading

/-!
# The shells that may be offered

A host offers what exists of its list, and of the common shells only if nothing of the list
exists (`mem_candidates_iff`). Of several names of one shell the one that comes first counts
(`IsFirstName`).
-/

namespace RemoteShell.Shells

variable {tree : FileTree} {directory names : List String} {path : String}

/-! ## Candidates -/

/-- The paths that the list of shells names, in the order of its lines. A list that is missing
or is no text names none. -/
def ListNames (tree : FileTree) (names : List String) : Prop :=
  (∃ text, tree.read [] listFile = .ok (Text.utf8 text) ∧ TextNames text names) ∨
    (∀ text, tree.read [] listFile ≠ .ok (Text.utf8 text)) ∧ names = []

/-- The list of shells names a path. -/
def Lists (tree : FileTree) (path : String) : Prop := ∃ names, ListNames tree names ∧ path ∈ names

/-- A path leads to a shell that may be offered: it exists, and the list names it, or it is
common and nothing that the list names exists. -/
def Offers (tree : FileTree) (directory : List String) (path : String) : Prop :=
  tree.contains directory path = true ∧ (Lists tree path ∨
    path ∈ commonShells ∧ ∀ other, Lists tree other → tree.contains directory other = false)

theorem listed_empty : listed "" = [] := rfl

/-- The paths that are read are those that the list names. -/
theorem listNames_iff : ListNames tree names ↔ names = listed (listText tree) := by
  simp only [ListNames, listText, textNames_iff]
  cases hread : tree.read [] listFile with
  | error error => simp [listed_empty]
  | ok bytes =>
    cases hdecode : Text.decode? bytes with
    | none =>
      have hunreadable (text : List Char) : bytes ≠ Text.utf8 text := fun hbytes => by
        rw [Text.decode?_eq_some_iff.mpr hbytes] at hdecode
        cases hdecode
      simp [hdecode, hunreadable, listed_empty]
    | some text =>
      have hspells (other : List Char) : bytes = Text.utf8 other ↔ text = other := by
        rw [← Text.decode?_eq_some_iff, hdecode, Option.some.injEq]
      simp [hdecode, hspells, eq_comm]

theorem lists_iff : Lists tree path ↔ path ∈ listed (listText tree) := by
  simp only [Lists, listNames_iff, exists_eq_left]

/-- The common shells are taken if and only if the list names none that exists. -/
theorem candidates_eq (tree : FileTree) (directory : List String) :
    candidates tree directory =
      if ∃ path ∈ listed (listText tree), tree.contains directory path = true then
        (listed (listText tree)).filter (tree.contains directory)
      else commonShells.filter (tree.contains directory) := by
  rw [candidates]
  split
  · rename_i hnone
    rw [if_neg]
    rintro ⟨path, hpath, hexists⟩
    exact List.filter_eq_nil_iff.mp hnone path hpath hexists
  · rename_i hsome
    rw [if_pos]
    obtain ⟨path, hpath⟩ := List.exists_mem_of_ne_nil _ hsome
    exact ⟨path, List.mem_filter.mp hpath⟩

theorem contains_of_mem_candidates (h : path ∈ candidates tree directory) :
    tree.contains directory path = true := by
  rw [candidates_eq] at h
  split at h <;> exact (List.mem_filter.mp h).2

theorem mem_candidates_iff : path ∈ candidates tree directory ↔ Offers tree directory path := by
  simp only [Offers, lists_iff, candidates_eq]
  split
  · rename_i hlisted
    obtain ⟨other, hother, hexists⟩ := hlisted
    have hnot : ¬ ∀ other ∈ listed (listText tree), tree.contains directory other = false :=
      fun hnone => by simp [hnone other hother] at hexists
    simp [hnot, and_comm]
  · rename_i hnone
    have hmissing : ∀ other ∈ listed (listText tree), tree.contains directory other = false :=
      fun other hother => Bool.eq_false_iff.mpr fun hexists => hnone ⟨other, hother, hexists⟩
    rw [List.mem_filter]
    constructor
    · rintro ⟨hcommon, hexists⟩
      exact ⟨hexists, .inr ⟨hcommon, hmissing⟩⟩
    · rintro ⟨hexists, hpath | ⟨hcommon, -⟩⟩
      · simp [hmissing path hpath] at hexists
      · exact ⟨hcommon, hexists⟩

/-- There is no candidate if and only if none of the paths to look for exists. -/
theorem candidates_eq_nil_iff : candidates tree directory = [] ↔
    ∀ path, Lists tree path ∨ path ∈ commonShells → tree.contains directory path = false := by
  rw [List.eq_nil_iff_forall_not_mem]
  simp only [mem_candidates_iff]
  constructor
  · intro hnone
    have hmissing (path : String) (hlisted : Lists tree path) :
        tree.contains directory path = false :=
      Bool.eq_false_iff.mpr fun hexists => hnone path ⟨hexists, .inl hlisted⟩
    rintro path (hlisted | hcommon)
    · exact hmissing path hlisted
    · exact Bool.eq_false_iff.mpr fun hexists => hnone path ⟨hexists, .inr ⟨hcommon, hmissing⟩⟩
  · rintro hnone path ⟨hexists, hpath⟩
    rw [hnone path (hpath.imp_right And.left)] at hexists
    cases hexists

/-! ## Names of one shell -/

theorem canonical?_of_contains (h : tree.contains directory path = true) :
    tree.canonical? directory path = some (identity tree directory path) := by
  rw [identity, FileTree.canonical?]
  rw [FileTree.contains] at h
  cases hresolve : tree.resolve directory path with
  | ok names => rfl
  | error error => simp [hresolve, Except.isOk, Except.toBool] at h

/-- Two candidates lead to the same shell. -/
theorem canonical?_eq_iff {other : String} (hpath : path ∈ candidates tree directory)
    (hother : other ∈ candidates tree directory) :
    tree.canonical? directory other = tree.canonical? directory path ↔
      identity tree directory other = identity tree directory path := by
  rw [canonical?_of_contains (contains_of_mem_candidates hpath),
    canonical?_of_contains (contains_of_mem_candidates hother), Option.some.injEq]

/-- A path is the first candidate that leads to its shell. -/
def IsFirstName (tree : FileTree) (directory : List String) (path : String) : Prop :=
  (candidates tree directory).find?
    (tree.canonical? directory · = tree.canonical? directory path) = some path

/-! ## A host with links -/

/-- A host with bash and zsh, where `/bin/sh` is another name of bash. -/
def linkedHost (list : String) : FileTree where
  nodes := [(["etc", "shells"], .file (Text.utf8 list.toList) false),
    (["bin", "sh"], .link "bash"), (["bin", "bash"], .file [] true),
    (["bin", "zsh"], .file [] true)]

/-- Where the paths of a host with links lead. -/
theorem resolve_linkedHost (list : String) :
    (linkedHost list).resolve [] "/etc/shells" = .ok ["etc", "shells"] ∧
      (linkedHost list).resolve [] "/bin/sh" = .ok ["bin", "bash"] ∧
      (linkedHost list).resolve [] "/bin/bash" = .ok ["bin", "bash"] ∧
      (linkedHost list).resolve [] "/bin/zsh" = .ok ["bin", "zsh"] ∧
      (linkedHost list).resolve [] "/bin/fish" = .error .notFound := by
  have hetc : (linkedHost list).node? ["etc"] = some .directory := rfl
  have hlist : (linkedHost list).node? ["etc", "shells"] =
      some (.file (Text.utf8 list.toList) false) := rfl
  have hbin : (linkedHost list).node? ["bin"] = some .directory := rfl
  have hsh : (linkedHost list).node? ["bin", "sh"] = some (.link "bash") := rfl
  have hbash : (linkedHost list).node? ["bin", "bash"] = some (.file [] true) := rfl
  have hzsh : (linkedHost list).node? ["bin", "zsh"] = some (.file [] true) := rfl
  have hfish : (linkedHost list).node? ["bin", "fish"] = none := rfl
  have hpaths : ∀ path ∈ ["/etc/shells", "/bin/sh", "/bin/bash", "/bin/zsh", "/bin/fish"],
      FileTree.hasZero path = false := by simp [FileTree.hasZero]
  have hroot : ∀ path ∈ ["/etc/shells", "/bin/sh", "/bin/bash", "/bin/zsh", "/bin/fish"],
      FileTree.isAbsolute path = true := by simp [FileTree.isAbsolute]
  have hnames : FileTree.namesOf "/etc/shells" = ["etc", "shells"] ∧
      FileTree.namesOf "/bin/sh" = ["bin", "sh"] ∧
      FileTree.namesOf "/bin/bash" = ["bin", "bash"] ∧
      FileTree.namesOf "/bin/zsh" = ["bin", "zsh"] ∧
      FileTree.namesOf "/bin/fish" = ["bin", "fish"] := by decide
  have hshort : ∀ name ∈ ["etc", "shells", "bin", "sh", "bash", "zsh", "fish"],
      ¬ FileTree.longestName < name.utf8ByteSize := by decide
  have htarget : FileTree.namesOf "bash" = ["bash"] := rfl
  have hrelative : FileTree.isAbsolute "bash" = false := by simp [FileTree.isAbsolute]
  simp only [List.forall_mem_cons] at hpaths hroot hshort
  simp [FileTree.resolve, FileTree.linkLimit, FileTree.follow, hpaths, hroot, hnames, hshort, hetc,
    hlist, hbin, hsh, hbash, hzsh, hfish, htarget, hrelative]

theorem contains_linkedHost (list : String) :
    (linkedHost list).contains [] "/bin/sh" = true ∧
      (linkedHost list).contains [] "/bin/bash" = true ∧
      (linkedHost list).contains [] "/bin/zsh" = true ∧
      (linkedHost list).contains [] "/bin/fish" = false := by
  obtain ⟨-, hsh, hbash, hzsh, hfish⟩ := resolve_linkedHost list
  simp [FileTree.contains, hsh, hbash, hzsh, hfish, Except.isOk, Except.toBool]

theorem listText_linkedHost (list : String) : listText (linkedHost list) = list := by
  have hread : (linkedHost list).read [] listFile = .ok (Text.utf8 list.toList) := by
    rw [FileTree.read, listFile, (resolve_linkedHost list).1]
    rfl
  have hdecode : Text.decode? (Text.utf8 list.toList) = some list.toList :=
    Text.decode?_eq_some_iff.mpr rfl
  simp [listText, hread, hdecode]

theorem canonical?_linkedHost (list : String) :
    (linkedHost list).canonical? [] "/bin/sh" = some "/bin/bash" ∧
      (linkedHost list).canonical? [] "/bin/bash" = some "/bin/bash" ∧
      (linkedHost list).canonical? [] "/bin/zsh" = some "/bin/zsh" := by
  obtain ⟨-, hsh, hbash, hzsh, -⟩ := resolve_linkedHost list
  simp only [FileTree.canonical?, hsh, hbash, hzsh]
  decide

/-- A host with links offers the shells that it lists. -/
theorem candidates_linkedHost {list : String} (hlisted : listed list = names) (hne : names ≠ [])
    (hnames : ∀ name ∈ names, name ∈ ["/bin/sh", "/bin/bash", "/bin/zsh"]) :
    candidates (linkedHost list) = names := by
  obtain ⟨hsh, hbash, hzsh, -⟩ := contains_linkedHost list
  have hexist : ∀ name ∈ names, (linkedHost list).contains [] name = true := by
    intro name hname
    have hone := hnames name hname
    simp only [List.mem_cons, List.not_mem_nil, or_false] at hone
    rcases hone with rfl | rfl | rfl
    · exact hsh
    · exact hbash
    · exact hzsh
  rw [candidates_eq, listText_linkedHost, hlisted, if_pos]
  · exact List.filter_eq_self.mpr hexist
  · obtain ⟨name, hname⟩ := List.exists_mem_of_ne_nil names hne
    exact ⟨name, hname, hexist name hname⟩

end RemoteShell.Shells

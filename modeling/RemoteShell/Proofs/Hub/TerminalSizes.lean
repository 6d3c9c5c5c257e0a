import RemoteShell.Proofs.Hub.Opening
import RemoteShell.Proofs.Session.Sizes
import RemoteShell.Proofs.Settings.Timing

/-!
# The sizes of terminals

A session starts with the size that its query asks for, and what the query leaves open or asks
for as zero is taken from the settings. Nothing looks at the settings, so the terminals of a hub
are proper if and only if its defaults are where they are needed
(`terminals_are_proper_iff`).
-/

namespace RemoteShell.Hub

open Http (Request)

variable {hub hub' : Hub} {request : Request} {id : String} {spec : Spec} {opening : Opening}

/-- A dimension is positive if the one that is asked for is, or else the default. -/
theorem dimension_pos_iff {asked : Option UInt16} {default : UInt16} :
    1 ≤ (Opening.dimension asked default).toNat ↔
      (∃ n, asked = some n ∧ n ≠ 0) ∨ default ≠ 0 := by
  have hpos (n : UInt16) : 1 ≤ n.toNat ↔ n ≠ 0 := by
    rw [Nat.one_le_iff_ne_zero, Ne, Ne, ← UInt16.toNat_inj, UInt16.toNat_zero]
  rw [hpos]
  unfold Opening.dimension
  split
  · simp
  · split <;> simp_all

/-- Take a session that a hub has opened. Its terminal is opened with the size that the query
asks for, completed from the settings, and every later size is proper and has the numbers of a
frame from the client. So none is empty, in any run and however the setup goes, if and only
if each dimension is positive in the query or by default. -/
theorem terminals_are_proper_iff (hquery : Opening.ofQuery request.query = .ok opening)
    (hopens : hub.openSession request id = .ok (spec, hub')) :
    (∀ setup moves shell told,
        Session.Leaves hub.settings.timing.options spec.size setup moves shell →
          (.openedTerminal told ∈ shell.log ↔ told = opening.size hub.settings.server) ∧
            (.resized told ∈ shell.log → ∃ text frame, .text text ∈ arrivals moves ∧
              Control.Frame.read text = .ok frame ∧ frame.AsksFor told)) ∧
      ((∀ setup moves shell told,
          Session.Leaves hub.settings.timing.options spec.size setup moves shell →
            .openedTerminal told ∈ shell.log ∨ .resized told ∈ shell.log → told.IsProper) ↔
        ((∃ n, opening.cols = some n ∧ n ≠ 0) ∨ hub.settings.server.defaultCols ≠ 0) ∧
          ((∃ n, opening.rows = some n ∧ n ≠ 0) ∨ hub.settings.server.defaultRows ≠ 0)) := by
  obtain ⟨_, _, hasked, -, -, hspec, -⟩ := openSession_eq_ok_iff.mp hopens
  cases hquery.symm.trans hasked
  have hsize := size_of_specOf? hspec
  have hsizes (setup moves shell told)
      (hleaves : Session.Leaves hub.settings.timing.options spec.size setup moves shell) :
      (.openedTerminal told ∈ shell.log ↔ told = opening.size hub.settings.server) ∧
        (.resized told ∈ shell.log → ∃ text frame, .text text ∈ arrivals moves ∧
          Control.Frame.read text = .ok frame ∧ frame.AsksFor told) :=
    hsize ▸ Session.sizes_of_leaves hleaves
  refine ⟨hsizes, ?_⟩
  rw [← dimension_pos_iff, ← dimension_pos_iff]
  constructor
  · intro hproper
    have hleaves : Session.Leaves hub.settings.timing.options spec.size .smooth [] _ := .prepared
    exact hproper _ _ _ _ hleaves (.inl ((hsizes _ _ _ _ hleaves).1.mpr rfl))
  · intro hproper setup moves shell told hleaves htold
    obtain ⟨hfirst, hlater⟩ := hsizes setup moves shell told hleaves
    rcases htold with hopened | hresized
    · rw [hfirst.mp hopened]
      exact hproper
    · obtain ⟨-, frame, -, -, hasks⟩ := hlater hresized
      exact hasks.proper

/-- A client that asks for no columns and fifty rows gets eighty columns by default, and no
terminal of its session is ever empty. -/
theorem terminals_are_proper_by_default :
    let hub := Hub.start { Settings.standard with auth := ⟨"k3y"⟩ } oneShell 0
    let request := inDueForm "/api/ws?token=k3y&cols=0&rows=50"
    Opening.ofQuery request.query = .ok ⟨"k3y", some 0, some 50, none, none⟩ ∧
      (∃ hub', hub.openSession request "s" = .ok (⟨"/bin/sh", "/", ⟨80, 50⟩⟩, hub')) ∧
      ∀ setup moves shell told,
        Session.Leaves hub.settings.timing.options ⟨80, 50⟩ setup moves shell →
          .openedTerminal told ∈ shell.log ∨ .resized told ∈ shell.log → told.IsProper := by
  intro hub request
  have hpairs : Text.Percent.formPairs request.query =
      [("token", "k3y"), ("cols", "0"), ("rows", "50")] := by decide +kernel
  have hquery : Opening.ofQuery request.query = .ok ⟨"k3y", some 0, some 50, none, none⟩ := by
    rw [Opening.ofQuery, hpairs]
    rfl
  have hopens : ∃ hub', hub.openSession request "s" = .ok (⟨"/bin/sh", "/", ⟨80, 50⟩⟩, hub') :=
    ⟨_, openSession_eq_ok_iff.mpr ⟨_, _, hquery, checkHandshake_inDueForm _, rfl,
      specOf?_of_resolve resolve_oneShell, rfl, rfl⟩⟩
  obtain ⟨hub', hopens⟩ := hopens
  exact ⟨hquery, ⟨hub', hopens⟩, (terminals_are_proper_iff hquery hopens).2.mpr
    ⟨.inr (by decide), .inl ⟨50, rfl, by decide⟩⟩⟩

/-- The settings of a file that sets the default columns to zero. -/
def noColumns : Settings := { Settings.standard with server.defaultCols := 0, auth := ⟨"k3y"⟩ }

/-- A file may set the default columns to zero: it is loaded, and a client that asks for no
size gets a terminal without columns. -/
theorem empty_terminal_by_default :
    Settings.load (.ofText "[auth]\napi_key = \"k3y\"\n[server]\ndefault_terminal_cols = 0\n")
        (fun _ => none) none = .ok noColumns ∧
      (∃ hub', (Hub.start noColumns oneShell 0).openSession (inDueForm "/api/ws?token=k3y") "s" =
        .ok (⟨"/bin/sh", "/", ⟨0, 24⟩⟩, hub')) ∧
      .openedTerminal ⟨0, 24⟩ ∈
        (Session.prepare noColumns.timing.options ⟨0, 24⟩ .smooth).2.log ∧
      ¬ (TerminalSize.mk 0 24).IsProper := by
  have hparse : Settings.parse?
      "[auth]\napi_key = \"k3y\"\n[server]\ndefault_terminal_cols = 0\n" = some noColumns := by
    decide +kernel
  have hpairs : Text.Percent.formPairs (inDueForm "/api/ws?token=k3y").query =
      [("token", "k3y")] := by decide +kernel
  have hquery : Opening.ofQuery (inDueForm "/api/ws?token=k3y").query =
      .ok ⟨"k3y", none, none, none, none⟩ := by
    rw [Opening.ofQuery, hpairs]
    rfl
  refine ⟨Settings.load_ofText hparse rfl, ?_, ?_, fun h => by simpa using h.1⟩
  · exact ⟨_, openSession_eq_ok_iff.mpr ⟨_, _, hquery, checkHandshake_inDueForm _, rfl,
      specOf?_of_resolve resolve_oneShell, rfl, rfl⟩⟩
  · exact (Session.sizes_of_leaves .prepared).1.mpr rfl

end RemoteShell.Hub

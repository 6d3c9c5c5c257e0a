import Mathlib.Data.List.TakeWhile
import RemoteShell.Hub.Router
import RemoteShell.Proofs.Secret
import RemoteShell.Proofs.Text.Percent

/-!
# How sessions are opened

What a request has to be like to open a session (`openSession_eq_ok_iff`), and that every
key can be shown in such a request.
-/

namespace RemoteShell.Hub

open Http (Request Response)

variable {hub hub' : Hub} {request : Request} {id key name word : String} {spec : Spec}
variable {text : List Char}

/-! ## Opening a session -/

theorem acceptsKey_iff : hub.acceptsKey key = true ↔ key = hub.settings.auth.apiKey :=
  isKey_iff.trans eq_comm

/-- The route on which sessions are opened is not guarded by a header. -/
theorem answerOn_opening (hub : Hub) (request : Request) (id : String) :
    hub.answerOn .opening request id =
      if request.method ∈ Route.opening.methods then hub.serve .opening request id
      else (.response .methodNotAllowed, hub) := rfl

/-- What it takes to open a session, and what it changes. -/
theorem openSession_eq_ok_iff :
    hub.openSession request id = .ok (spec, hub') ↔
      ∃ opening roster, Opening.ofQuery request.query = .ok opening ∧
        checkHandshake request = .ok () ∧ opening.token = hub.settings.auth.apiKey ∧
        hub.specOf? opening = some spec ∧ hub.roster.reserve id spec hub.now = .ok roster ∧
        hub' = { hub with roster } := by
  unfold openSession
  constructor
  · intro h
    split at h
    · cases h
    next opening hquery =>
    split at h
    · cases h
    next hhandshake =>
    split at h
    case isFalse => cases h
    next haccepts =>
    split at h
    · cases h
    next spec' hspec =>
    split at h
    · cases h
    next roster hroster =>
    cases h
    exact ⟨opening, roster, hquery, hhandshake, acceptsKey_iff.mp haccepts, hspec, hroster, rfl⟩
  · rintro ⟨opening, roster, hquery, hhandshake, htoken, hspec, hroster, rfl⟩
    simp only [hquery, hhandshake, acceptsKey_iff.mpr htoken, if_true, hspec, hroster]

/-- A session starts with the size that its query asks for. -/
theorem size_of_specOf? {opening : Opening} (h : hub.specOf? opening = some spec) :
    spec.size = opening.size hub.settings.server := by
  obtain ⟨shell, -, hspec⟩ := Option.bind_eq_some_iff.mp h
  cases hspec
  rfl

theorem specOf?_of_resolve {opening : Opening} {shell : String}
    (h : Shells.resolve hub.files (opening.shell.getD hub.settings.shell.defaultShell) =
      some shell) :
    hub.specOf? opening =
      some ⟨shell, opening.workingDir.getD hub.settings.shell.defaultWorkingDir,
        opening.size hub.settings.server⟩ := by
  rw [specOf?, h]
  rfl

theorem respond_of_openSession
    (hroute : Route.ofPath? request.path = some .opening) (hmethod : request.method = "GET")
    (hopens : hub.openSession request id = .ok (spec, hub')) :
    hub.respond request id = (.opened id spec, hub') := by
  have htakes : request.method ∈ Route.opening.methods := hmethod ▸ List.mem_cons_self
  simp only [respond, hroute, answerOn_opening, if_pos htakes, serve, hopens, finish]

/-! ## Requests in due form -/

theorem lowerText?_utf8 : lowerText? (Text.utf8 text) = some (.ofList (text.map Char.toLower)) := by
  rw [lowerText?, Text.decode?_eq_some_iff.mpr rfl, Option.map_some]

theorem mentions_of_header? (h : request.header? name = some (Text.utf8 text)) :
    mentions request name word = Text.holds word.toList (text.map Char.toLower) := by
  rw [mentions, h, Option.bind_some, lowerText?_utf8]
  simp only [String.toList_ofList]

theorem equals_of_header? (h : request.header? name = some (Text.utf8 text)) :
    equals request name word = decide (String.ofList (text.map Char.toLower) = word) := by
  rw [equals, h, Option.bind_some, lowerText?_utf8]
  simp only [Option.some.injEq]

/-- A request that asks for the change of protocol in due form. -/
def inDueForm (target : String) : Request where
  method := "GET"
  target
  headers := [("connection", Text.utf8 "upgrade".toList),
    ("upgrade", Text.utf8 "websocket".toList), ("sec-websocket-version", Text.utf8 "13".toList),
    ("sec-websocket-key", Text.utf8 "c2hlbGw=".toList)]
  canSwitch := true

theorem checkHandshake_inDueForm (target : String) :
    checkHandshake (inDueForm target) = .ok () := by
  -- nothing that is checked depends on the target
  have hempty : checkHandshake (inDueForm "") = .ok () := by
    obtain ⟨hconnection, hupgrade, hversion, hkey⟩ :
        (inDueForm "").header? "connection" = some (Text.utf8 "upgrade".toList) ∧
          (inDueForm "").header? "upgrade" = some (Text.utf8 "websocket".toList) ∧
          (inDueForm "").header? "sec-websocket-version" = some (Text.utf8 "13".toList) ∧
          (inDueForm "").header? "sec-websocket-key" = some (Text.utf8 "c2hlbGw=".toList) := by
      decide +kernel
    rw [checkHandshake, mentions_of_header? hconnection, equals_of_header? hupgrade,
      equals_of_header? hversion, hkey]
    decide +kernel
  exact hempty

/-- A form with one key. -/
def formWith (key : List UInt8) : String :=
  Text.Percent.formOf (Text.utf8 "token".toList) key

/-- The target of a request for a session that shows a key, with all of the key in escapes. -/
def targetWith (key : List UInt8) : String := "/api/ws?" ++ formWith key

theorem targetWith_toList (key : List UInt8) :
    (targetWith key).toList = "/api/ws".toList ++ '?' :: (formWith key).toList :=
  String.toList_append

theorem pathSigns : '#' ∉ "/api/ws".toList ∧ ∀ c ∈ "/api/ws".toList, decide (c ≠ '?') = true := by
  simp

theorem address_inDueForm_targetWith (key : List UInt8) :
    (inDueForm (targetWith key)).address = (targetWith key).toList := by
  refine List.takeWhile_eq_self_iff.mpr fun c hc => decide_eq_true_iff.mpr ?_
  rintro rfl
  rw [inDueForm, targetWith_toList, List.mem_append, List.mem_cons] at hc
  rcases hc with hc | hc | hc
  · exact pathSigns.1 hc
  · cases hc
  · exact Text.Percent.not_mem_formOf (by decide) hc

theorem path_inDueForm_targetWith (key : List UInt8) :
    (inDueForm (targetWith key)).path = "/api/ws" := by
  rw [Request.path, address_inDueForm_targetWith, targetWith_toList,
    List.takeWhile_append_of_pos pathSigns.2, List.takeWhile_cons_of_neg (by decide),
    List.append_nil, String.ofList_toList]

theorem query_inDueForm_targetWith (key : List UInt8) :
    (inDueForm (targetWith key)).query = formWith key := by
  rw [Request.query, address_inDueForm_targetWith, targetWith_toList,
    List.dropWhile_append_of_pos pathSigns.2, List.dropWhile_cons_of_neg (by decide),
    List.drop_one, List.tail_cons, String.ofList_toList]

theorem formFields_formWith (key : List UInt8) :
    Text.Percent.formFields (formWith key) = [(Text.utf8 "token".toList, key)] :=
  Text.Percent.formFields_formOf _ key

/-! ## A host -/

/-- A host with one shell. -/
def oneShell : FileTree := ⟨[(["bin", "sh"], .file [] true)]⟩

theorem contains_oneShell : oneShell.contains [] "/bin/sh" = true := by
  have hnames : FileTree.namesOf "/bin/sh" = ["bin", "sh"] := by decide +kernel
  have hroot : FileTree.isAbsolute "/bin/sh" = true := by simp [FileTree.isAbsolute]
  have hzero : FileTree.hasZero "/bin/sh" = false := by decide +kernel
  have hshort : ¬ FileTree.longestName < "bin".utf8ByteSize ∧
      ¬ FileTree.longestName < "sh".utf8ByteSize := by decide +kernel
  have hbin : oneShell.node? ["bin"] = some .directory := by decide +kernel
  have hsh : oneShell.node? ["bin", "sh"] = some (.file [] true) := by decide +kernel
  rw [FileTree.contains, FileTree.resolve, hnames, hroot, hzero]
  simp [FileTree.follow, hshort, hbin, hsh, Except.isOk, Except.toBool]

theorem resolve_oneShell : Shells.resolve oneShell "/bin/sh" = some "/bin/sh" :=
  if_pos contains_oneShell

end RemoteShell.Hub

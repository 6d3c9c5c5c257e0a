import RemoteShell.Proofs.Hub.Opening

/-!
# Where keys pass

A key in a header is read as text, so it has to be visible; a key in a query may be any
text. Main statement: the two ways of showing a key agree on all keys but one, the key of
the hub if it is not visible (`ways_agree_iff`).
-/

namespace RemoteShell

open Http (Request Response isVisible jsonText visibleText?)

variable {value : List UInt8} {text : List Char} {key id : String} {hub : Hub} {request : Request}

namespace Http

/-- A visible byte is a character by itself. -/
theorem lt_of_isVisible {byte : UInt8} (h : isVisible byte = true) : byte.toNat < 128 := by
  simp only [isVisible, Bool.or_eq_true, Bool.and_eq_true, decide_eq_true_eq, UInt8.lt_iff_toNat_lt,
    UInt8.le_iff_toNat_le, ← UInt8.toNat_inj, UInt8.reduceToNat] at h
  omega

/-- A value gives a text if it is the bytes of the text and all of them are visible. -/
theorem visibleText?_eq_some_iff :
    visibleText? value = some text ↔ value = Text.utf8 text ∧ value.all isVisible = true := by
  have hlow (hvisible : value.all isVisible = true) : ∀ byte ∈ value, byte.toNat < 128 :=
    fun byte hbyte => lt_of_isVisible (List.all_eq_true.mp hvisible byte hbyte)
  unfold visibleText?
  constructor
  · intro h
    split at h
    · next hvisible =>
      cases h
      exact ⟨(Text.utf8_map_ofNat (hlow hvisible)).symm, hvisible⟩
    · cases h
  · rintro ⟨rfl, hvisible⟩
    rw [if_pos hvisible, ← Text.eq_map_ofNat_of_utf8 (hlow hvisible)]

end Http

namespace Hub

/-! ## Keys in headers -/

/-- The value of a header that shows a key. -/
def bearing (key : String) : List UInt8 := Text.utf8 (bearer ++ key.toList)

/-- Tells whether a key can be read in a header: it holds nothing but tabs and printable
characters of the ASCII range. -/
def isReadable (key : String) : Bool := (Text.utf8 key.toList).all isVisible

theorem bearing_inj {key later : String} : bearing key = bearing later ↔ key = later := by
  rw [bearing, bearing, Text.utf8_inj, List.append_cancel_left_eq, String.toList_inj]

theorem all_isVisible_bearing : (bearing key).all isVisible = isReadable key := by
  have hbearer : (Text.utf8 bearer).all isVisible = true := by decide
  rw [bearing, Text.utf8_append, List.all_append, hbearer, Bool.true_and, isReadable]

/-- A request shows a key in its header if the header is made for the key and the key can be
read there. -/
theorem shownKey?_eq_some_iff :
    shownKey? request = some key ↔
      request.header? "authorization" = some (bearing key) ∧ isReadable key = true := by
  rw [← all_isVisible_bearing, shownKey?]
  cases hheader : request.header? "authorization" with
  | none => simp
  | some value =>
    simp only [Option.bind_eq_bind, Option.bind_some, Option.bind_eq_some_iff,
      Http.visibleText?_eq_some_iff, Option.some.injEq]
    constructor
    · rintro ⟨text, ⟨rfl, hvisible⟩, hkey⟩
      split at hkey
      · next hprefix =>
        obtain ⟨rest, rfl⟩ := List.isPrefixOf_iff_prefix.mp hprefix
        rw [List.drop_left] at hkey
        cases hkey
        rw [bearing, String.toList_ofList]
        exact ⟨rfl, hvisible⟩
      · cases hkey
    · rintro ⟨rfl, hvisible⟩
      refine ⟨bearer ++ key.toList, ⟨rfl, hvisible⟩, ?_⟩
      rw [if_pos (List.isPrefixOf_iff_prefix.mpr (List.prefix_append ..)), List.drop_left,
        String.ofList_toList]
      rfl

/-- A request is let through if it shows the key of the hub. -/
theorem refusal?_eq_none_iff :
    hub.refusal? request = none ↔ shownKey? request = some hub.settings.auth.apiKey := by
  unfold refusal?
  split
  · next hshown => simp [hshown]
  · next shown hshown =>
    rw [hshown, Option.some.injEq, ← acceptsKey_iff]
    split <;> simp_all

/-! ## Keys in queries -/

/-- A request asks for a session in due form and shows a key in its query. -/
structure AsksWith (request : Request) (key : String) : Prop where
  handshake : checkHandshake request = .ok ()
  token : ∃ opening, Opening.ofQuery request.query = .ok opening ∧ opening.token = key

/-- The answer to a query with a wrong key. -/
def forbidden : Response := .text 403 "Forbidden"

/-- A request for a session is forbidden unless it shows the key of the hub. -/
theorem AsksWith.openSession_eq_forbidden_iff (h : AsksWith request key) :
    hub.openSession request id = .error forbidden ↔ key ≠ hub.settings.auth.apiKey := by
  obtain ⟨hhandshake, opening, hquery, rfl⟩ := h
  rw [openSession, hquery, Ne, ← acceptsKey_iff]
  simp only [hhandshake]
  split
  · next haccepts =>
    simp only [haccepts, not_true, iff_false]
    split
    · simp [forbidden, Response.text, Response.json]
    · split <;> simp [forbidden, Response.text, Response.json]
  · next haccepts => simp [haccepts, forbidden]

/-- What a request with one key in escapes asks for. -/
theorem ofQuery_inDueForm_targetWith (bytes : List UInt8) :
    Opening.ofQuery (inDueForm (targetWith bytes)).query =
      .ok ⟨Text.Percent.formText bytes, none, none, none, none⟩ := by
  have hpairs : Text.Percent.formPairs (formWith bytes) =
      [("token", Text.Percent.formText bytes)] := by
    rw [Text.Percent.formPairs, formFields_formWith]
    simp only [List.map_cons, List.map_nil, Text.Percent.formText_utf8]
  rw [query_inDueForm_targetWith, Opening.ofQuery, hpairs]
  rfl

/-- A fresh hub opens a session for whoever shows its key. -/
theorem exists_openSession_of_ofQuery (hhandshake : checkHandshake request = .ok ())
    (hquery : Opening.ofQuery request.query = .ok ⟨key, none, none, none, none⟩) :
    ∃ hub', (Hub.start { Settings.standard with auth := ⟨key⟩ } oneShell 0).openSession request id =
      .ok (⟨"/bin/sh", "/", ⟨80, 24⟩⟩, hub') :=
  ⟨_, openSession_eq_ok_iff.mpr ⟨_, _, hquery, hhandshake, rfl,
    specOf?_of_resolve resolve_oneShell, rfl, rfl⟩⟩

/-- Every key can be shown in a query. -/
theorem asksWith_inDueForm (key : String) :
    AsksWith (inDueForm (targetWith (Text.utf8 key.toList))) key where
  handshake := checkHandshake_inDueForm _
  token := ⟨_, ofQuery_inDueForm_targetWith _, Text.Percent.formText_utf8 key⟩

/-! ## The two ways -/

/-- A request with a key in its header is let through if and only if the key is the one of
the hub and can be read there. A request for a session with a key in its query passes the
check of keys if and only if the key is the one of the hub. So both ways agree on a key
unless it is the key of the hub and holds more than tabs and printable ASCII. -/
theorem ways_agree_iff (hub : Hub) (key : String) :
    (∀ listing : Request, listing.header? "authorization" = some (bearing key) →
        (hub.refusal? listing = none ↔ key = hub.settings.auth.apiKey ∧ isReadable key = true)) ∧
      (∀ upgrade id, AsksWith upgrade key →
        (hub.openSession upgrade id ≠ .error forbidden ↔ key = hub.settings.auth.apiKey)) ∧
      ((∀ (listing upgrade : Request) id, listing.header? "authorization" = some (bearing key) →
          AsksWith upgrade key →
          (hub.refusal? listing = none ↔ hub.openSession upgrade id ≠ .error forbidden)) ↔
        (key = hub.settings.auth.apiKey → isReadable key = true)) := by
  have hheader (listing : Request)
      (hlisting : listing.header? "authorization" = some (bearing key)) :
      hub.refusal? listing = none ↔ key = hub.settings.auth.apiKey ∧ isReadable key = true := by
    rw [refusal?_eq_none_iff, shownKey?_eq_some_iff, hlisting, Option.some.injEq, bearing_inj]
    exact and_congr_right fun hkey => by rw [hkey]
  have hquery (upgrade : Request) (id : String) (hupgrade : AsksWith upgrade key) :
      hub.openSession upgrade id ≠ .error forbidden ↔ key = hub.settings.auth.apiKey := by
    rw [Ne, hupgrade.openSession_eq_forbidden_iff, Classical.not_not]
  refine ⟨hheader, hquery, ?_⟩
  constructor
  · intro hagree hkey
    let listing : Request := ⟨"GET", "/api/sessions", [("authorization", bearing key)], false⟩
    have hlisting : listing.header? "authorization" = some (bearing key) := by
      simp [listing, Request.header?]
      decide +kernel
    have hboth := hagree listing _ "" hlisting (asksWith_inDueForm key)
    rw [hheader listing hlisting, hquery _ _ (asksWith_inDueForm key)] at hboth
    exact (hboth.mpr hkey).2
  · intro hreadable listing upgrade id hlisting hupgrade
    rw [hheader listing hlisting, hquery upgrade id hupgrade]
    exact and_iff_left_of_imp hreadable

/-- The key `clé` opens a session at a hub that has it for its key, but the sessions are not
listed to it: in a header it is not seen at all. -/
theorem unreadable_key_only_opens :
    let hub := Hub.start { Settings.standard with auth := ⟨"clé"⟩ } oneShell 0
    let listing : Request := ⟨"GET", "/api/sessions", [("authorization", bearing "clé")], false⟩
    let upgrade := inDueForm "/api/ws?token=cl%C3%A9"
    (hub.respond listing "s").1 = .response
        (.json 401 [("error", jsonText "Missing or invalid Authorization header")]) ∧
      (hub.respond upgrade "s").1 = .opened "s" ⟨"/bin/sh", "/", ⟨80, 24⟩⟩ := by
  intro hub listing upgrade
  constructor
  · have hroute : Route.ofPath? listing.path = some .sessions := by decide +kernel
    have hshown : shownKey? listing = none := by decide +kernel
    have hrefusal : hub.refusal? listing =
        some (.json 401 [("error", jsonText "Missing or invalid Authorization header")]) := by
      rw [refusal?, hshown]
    rw [respond_of_refusal hroute rfl hrefusal]
    decide +kernel
  · have hroute : Route.ofPath? upgrade.path = some .opening := by decide +kernel
    have hpairs : Text.Percent.formPairs upgrade.query = [("token", "clé")] := by decide +kernel
    have hquery : Opening.ofQuery upgrade.query = .ok ⟨"clé", none, none, none, none⟩ := by
      rw [Opening.ofQuery, hpairs]
      rfl
    obtain ⟨hub', hopens⟩ := exists_openSession_of_ofQuery (checkHandshake_inDueForm _) hquery
    rw [respond_of_openSession hroute rfl hopens]

end Hub

end RemoteShell

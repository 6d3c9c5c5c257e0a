import RemoteShell.Hub.Service
import RemoteShell.Proofs.Computation
import RemoteShell.Proofs.Hub.Keys

/-!
# Requests without the key

Who does not know the key changes nothing and learns nothing about the sessions. That a request
does not show the key is found out from the request and the key alone, before anything is
looked up or changed, so the answer is the same at every hub with this key. In a header a key is
its bytes. In a query it is the text that its bytes give, and that is the same thing if and only
if the key is without replacement characters (`strangers_are_kept_out_iff`).
-/

namespace RemoteShell.Hub

open Http (Request Response)
open Text.Percent (formFields formPairs formText)

variable {request : Request} {route : Route} {key query : String} {opening : Opening}

/-! ## Keys in a query -/

/-- What goes by the name of a key in a query, in bytes. -/
def tokensIn (query : String) : List (List UInt8) :=
  ((formFields query).filter (·.1 = Text.utf8 "token".toList)).map (·.2)

/-- The texts that go by the name of a key. -/
def tokenTexts (pairs : List (String × String)) : List String :=
  (pairs.filter (·.1 = "token")).map (·.2)

theorem tokenTexts_cons (name value : String) (pairs : List (String × String)) :
    tokenTexts ((name, value) :: pairs) =
      (if name = "token" then [value] else []) ++ tokenTexts pairs := by
  by_cases hname : name = "token" <;> simp [tokenTexts, hname]

/-- The name of a key is spelled in one way only, so nothing else goes by it. -/
theorem tokenTexts_formPairs (query : String) :
    tokenTexts (formPairs query) = (tokensIn query).map formText := by
  have hname (bytes : List UInt8) : formText bytes = "token" ↔ bytes = Text.utf8 "token".toList :=
    Text.Percent.formText_eq_iff (by decide)
  simp [tokenTexts, tokensIn, formPairs, List.filter_map, Function.comp_def, hname]

/-- A key without replacement characters is shown by its own bytes only. -/
theorem map_formText_eq_singleton_iff (h : '\uFFFD' ∉ key.toList) {tokens : List (List UInt8)} :
    tokens.map formText = [key] ↔ tokens = [Text.utf8 key.toList] := by
  rw [List.map_eq_singleton_iff]
  constructor
  · rintro ⟨bytes, rfl, hbytes⟩
    rw [(Text.Percent.formText_eq_iff h).mp hbytes]
  · rintro rfl
    exact ⟨_, rfl, Text.Percent.formText_utf8 key⟩

/-- A key is taken up only where none has been taken up before. -/
theorem PartialOpening.token_of_add {o o' : PartialOpening} {name value : String}
    (h : o.add name value = .ok o') :
    o'.token.toList = o.token.toList ++ if name = "token" then [value] else [] := by
  unfold add at h
  split at h
  case h_1 =>
    obtain ⟨token, hread, hkept⟩ := bind_eq_ok_iff.mp h
    cases hkept
    cases htoken : o.token with
    | none =>
      rw [htoken] at hread
      cases hread
      rfl
    | some token => simp [once, htoken] at hread
  case h_6 hother _ _ _ _ =>
    cases h
    rw [if_neg hother, List.append_nil]
  all_goals
    obtain ⟨_, -, hkept⟩ := bind_eq_ok_iff.mp h
    cases hkept
    rw [if_neg (by decide), List.append_nil]

theorem PartialOpening.token_of_foldlM {o o' : PartialOpening} {pairs : List (String × String)}
    (h : pairs.foldlM (fun o (name, value) => o.add name value) o = .ok o') :
    o'.token.toList = o.token.toList ++ tokenTexts pairs := by
  induction pairs generalizing o with
  | nil =>
    cases h
    exact (List.append_nil _).symm
  | cons pair pairs ih =>
    obtain ⟨name, value⟩ := pair
    obtain ⟨next, hadd, hlater⟩ := bind_eq_ok_iff.mp h
    rw [ih hlater, token_of_add hadd, tokenTexts_cons, List.append_assoc]

/-- A query that opens a session shows one key. -/
theorem tokensIn_of_ofQuery (h : Opening.ofQuery query = .ok opening) :
    (tokensIn query).map formText = [opening.token] := by
  obtain ⟨o, hpairs, htaken⟩ := bind_eq_ok_iff.mp h
  have htokens := PartialOpening.token_of_foldlM hpairs
  rw [show PartialOpening.empty.token.toList = [] from rfl, List.nil_append,
    tokenTexts_formPairs] at htokens
  rw [← htokens]
  split at htaken
  · cases htaken
  · next token htoken =>
    cases htaken
    rw [htoken, Option.toList_some]

/-! ## Refusals -/

/-- A request shows a key byte for byte, as its route wants it: after the word in its first
header, or as the one token of its query. Nobody has to show a key for the state of the hub. -/
def Route.Shows (route : Route) (request : Request) (key : String) : Prop :=
  match route with
  | .health => True
  | .sessions | .session _ => request.header? "authorization" = some (bearing key)
  | .opening => tokensIn request.query = [Text.utf8 key.toList]

/-- A request is answered in the same way by all hubs with a key, whatever sessions they have,
and leaves everything as it was: no session is entered, and none is told to stop. -/
def IsKeptOut (request : Request) (key : String) : Prop :=
  ∃ response, ∀ (service : Service) (id : String) (actions : List Host.Action),
    service.hub.settings.auth.apiKey = key →
      service.respond request id actions = (.response response, service)

/-- A guarded request without the key is refused in the same way by all hubs with this key. -/
theorem refusal?_of_not_shown (h : request.header? "authorization" ≠ some (bearing key)) :
    ∃ refusal, ∀ hub : Hub, hub.settings.auth.apiKey = key →
      hub.refusal? request = some refusal := by
  cases hshown : shownKey? request with
  | none => exact ⟨_, fun hub _ => by rw [refusal?, hshown]⟩
  | some shown =>
    refine ⟨.json 403 [("error", Http.jsonText "Invalid API key")], fun hub hkey => ?_⟩
    have hwrong : ¬ hub.acceptsKey shown = true := by
      rw [acceptsKey_iff, hkey]
      rintro rfl
      exact h (shownKey?_eq_some_iff.mp hshown).1
    simp only [refusal?, hshown]
    rw [if_neg hwrong]

/-- A request for a session without the key is refused in the same way by all hubs with
this key. -/
theorem openSession_of_not_shown (h : (tokensIn request.query).map formText ≠ [key]) :
    ∃ refusal, ∀ (hub : Hub) (id : String), hub.settings.auth.apiKey = key →
      hub.openSession request id = .error refusal := by
  cases hquery : Opening.ofQuery request.query with
  | error e => exact ⟨_, fun hub id _ => by rw [openSession, hquery]⟩
  | ok opening =>
    cases hhandshake : checkHandshake request with
    | error e => exact ⟨e.response, fun hub id _ => by simp only [openSession, hquery, hhandshake]⟩
    | ok =>
      refine ⟨forbidden, fun hub id hkey => ?_⟩
      have hasks : AsksWith request opening.token := ⟨hhandshake, opening, hquery, rfl⟩
      rw [hasks.openSession_eq_forbidden_iff, hkey]
      intro htoken
      exact h (htoken ▸ tokensIn_of_ofQuery hquery)

/-- What one route answers to a request is what the request is answered. -/
theorem isKeptOut_of_answerOn (hroute : Route.ofPath? request.path = some route)
    (h : ∃ response, ∀ (hub : Hub) (id : String), hub.settings.auth.apiKey = key →
      hub.answerOn route request id = (.response response, hub)) :
    IsKeptOut request key := by
  obtain ⟨response, h⟩ := h
  have hfinish : ∃ final, finish (.response response) route request.method = .response final := by
    rw [finish]
    split <;> exact ⟨_, rfl⟩
  obtain ⟨final, hfinal⟩ := hfinish
  refine ⟨final, fun service id actions hkey => ?_⟩
  have hrespond : service.hub.respond request id = (.response final, service.hub) := by
    simp only [Hub.respond, hroute, h service.hub id hkey, hfinal]
  simp only [Service.respond, hrespond]

theorem isKeptOut_of_isGuarded (hroute : Route.ofPath? request.path = some route)
    (hguarded : route.isGuarded = true)
    (hheader : request.header? "authorization" ≠ some (bearing key)) : IsKeptOut request key := by
  obtain ⟨refusal, hrefusal⟩ := refusal?_of_not_shown hheader
  exact isKeptOut_of_answerOn hroute
    ⟨refusal, fun hub id hkey => by rw [answerOn, if_pos hguarded, hrefusal hub hkey]⟩

theorem isKeptOut_of_opening (hroute : Route.ofPath? request.path = some .opening)
    (htokens : (tokensIn request.query).map formText ≠ [key]) : IsKeptOut request key := by
  obtain ⟨refusal, hrefusal⟩ := openSession_of_not_shown htokens
  by_cases hmethod : request.method ∈ Route.opening.methods
  · refine isKeptOut_of_answerOn hroute ⟨refusal, fun hub id hkey => ?_⟩
    rw [answerOn_opening, if_pos hmethod, serve, hrefusal hub id hkey]
  · refine isKeptOut_of_answerOn hroute ⟨.methodNotAllowed, fun hub id hkey => ?_⟩
    rw [answerOn_opening, if_neg hmethod]

/-! ## Bytes that are taken for the key -/

theorem Service.respond_fst (service : Service) (request : Request) (id : String)
    (actions : List Host.Action) :
    (service.respond request id actions).1 = (service.hub.respond request id).1 := by
  rw [Service.respond]
  split <;> simp [*]

/-- A session is opened for bytes that give the key as a text, whatever bytes they are. -/
theorem not_isKeptOut_of_formText (bytes : List UInt8) :
    ¬ IsKeptOut (inDueForm (targetWith bytes)) (formText bytes) := by
  rintro ⟨response, h⟩
  obtain ⟨hub', hopens⟩ := exists_openSession_of_ofQuery (checkHandshake_inDueForm _)
    (ofQuery_inDueForm_targetWith bytes)
  have hroute : Route.ofPath? (inDueForm (targetWith bytes)).path = some .opening := by
    rw [path_inDueForm_targetWith]
    decide +kernel
  have hreply := congrArg Prod.fst
    (h ⟨Hub.start { Settings.standard with auth := ⟨formText bytes⟩ } oneShell 0, []⟩ "s" [] rfl)
  rw [Service.respond_fst, respond_of_openSession hroute rfl hopens] at hreply
  exact Reply.noConfusion hreply

/-! ## Requests without the key -/

/-- A request that does not show the key in its header is kept out of the sessions, and one
whose query does not give the key as a text is kept from opening one. For every request that
does not show the key byte for byte to be kept from opening a session, the key has to be without
replacement characters. -/
theorem strangers_are_kept_out_iff (key : String) :
    (∀ request route, Route.ofPath? request.path = some route → route ≠ .opening →
        ¬ route.Shows request key → IsKeptOut request key) ∧
      (∀ request, Route.ofPath? request.path = some .opening →
        (tokensIn request.query).map formText ≠ [key] → IsKeptOut request key) ∧
      ((∀ request, Route.ofPath? request.path = some .opening →
          ¬ Route.opening.Shows request key → IsKeptOut request key) ↔
        '\uFFFD' ∉ key.toList) := by
  refine ⟨?_, fun request hroute => isKeptOut_of_opening hroute, ?_, ?_⟩
  · intro request route hroute hother hshows
    cases route with
    | health => exact absurd trivial hshows
    | sessions | session => exact isKeptOut_of_isGuarded hroute rfl hshows
    | opening => exact absurd rfl hother
  · intro hkept hmem
    obtain ⟨bytes, rfl, hbytes⟩ := Text.Percent.exists_formText_eq_of_mem hmem
    refine not_isKeptOut_of_formText bytes (hkept _ ?_ fun hshows => hbytes ?_)
    · rw [path_inDueForm_targetWith]
      decide +kernel
    · have htokens : tokensIn (inDueForm (targetWith bytes)).query = [bytes] := by
        rw [query_inDueForm_targetWith, tokensIn, formFields_formWith]
        simp
      exact List.singleton_inj.mp (htokens.symm.trans hshows)
  · intro hmem request hroute hshows
    exact isKeptOut_of_opening hroute fun htexts =>
      hshows ((map_formText_eq_singleton_iff hmem).mp htexts)

/-- A stranger who tries to stop the session `s` is told the same whether there is such a
session or none at all, and nothing is stopped. -/
theorem stranger_cannot_tell :
    let request : Request :=
      ⟨"DELETE", "/api/sessions/s", [("authorization", Text.utf8 "Bearer k3".toList)], false⟩
    let empty : Service := ⟨Hub.start { Settings.standard with auth := ⟨"k3y"⟩ } ⟨[]⟩ 0, []⟩
    let roster : Roster := ⟨20, [⟨"s", ⟨"/bin/sh", "/", ⟨80, 24⟩⟩, 0, none⟩], [], false⟩
    let busy : Service := ⟨{ empty.hub with roster }, []⟩
    Route.ofPath? request.path = some (.session "s") ∧
      ¬ (Route.session "s").Shows request "k3y" ∧
      ∃ response, empty.respond request "t" [] = (.response response, empty) ∧
        busy.respond request "t" [] = (.response response, busy) := by
  intro request empty roster busy
  have hroute : Route.ofPath? request.path = some (.session "s") := by decide +kernel
  have hshows : ¬ (Route.session "s").Shows request "k3y" := by
    change request.header? "authorization" ≠ some (bearing "k3y")
    decide +kernel
  obtain ⟨response, h⟩ :=
    (strangers_are_kept_out_iff "k3y").1 request (.session "s") hroute (by decide) hshows
  exact ⟨hroute, hshows, response, h empty "t" [] rfl, h busy "t" [] rfl⟩

/-- The byte 255 spells no text. At a hub whose key is the replacement character it opens a
session all the same, though it is not one of the bytes of the key. -/
theorem wrong_byte_opens :
    let hub := Hub.start { Settings.standard with auth := ⟨"\uFFFD"⟩ } oneShell 0
    let request := inDueForm "/api/ws?token=%FF"
    tokensIn request.query = [[255]] ∧ Text.utf8 "\uFFFD".toList = [239, 191, 189] ∧
      ¬ Route.opening.Shows request "\uFFFD" ∧
      (hub.respond request "s").1 = .opened "s" ⟨"/bin/sh", "/", ⟨80, 24⟩⟩ := by
  intro hub request
  have htokens : tokensIn request.query = [[255]] := by decide +kernel
  have hkey : Text.utf8 "\uFFFD".toList = [239, 191, 189] := by decide +kernel
  have hroute : Route.ofPath? request.path = some .opening := by decide +kernel
  have hpairs : formPairs request.query = [("token", "\uFFFD")] := by decide +kernel
  have hquery : Opening.ofQuery request.query = .ok ⟨"\uFFFD", none, none, none, none⟩ := by
    rw [Opening.ofQuery, hpairs]
    rfl
  refine ⟨htokens, hkey, ?_, ?_⟩
  · change tokensIn request.query ≠ [Text.utf8 "\uFFFD".toList]
    rw [htokens, hkey]
    decide
  · obtain ⟨hub', hopens⟩ := exists_openSession_of_ofQuery (checkHandshake_inDueForm _) hquery
    rw [respond_of_openSession hroute rfl hopens]

end RemoteShell.Hub

import RemoteShell.Hub.Router
import RemoteShell.Proofs.Hub.Floor
import RemoteShell.Proofs.Session.Rest

/-!
# How sessions are stopped

A session is stopped by its token, and its token is cancelled by a kill of the session
while it is on the roster, or by the shutdown of the hub. A session that has been asked to
stop is cancelled once it runs and has come to rest, however early it was asked. Nothing
that is done to one session reaches another one.
-/

namespace RemoteShell

/-! ## Sessions that are asked to stop -/

namespace Session

variable {s s' : Session} {move : Move} {moves : List Move}

theorem stopRequested_of_change (h : Change s move s') (hmove : move.asksToStop = false) :
    s'.stopRequested = s.stopRequested := by
  cases h with
  | stops => cases hmove
  | _ => rfl

/-- A request to stop stays. -/
theorem stopRequested_of_change_of_stopRequested (h : Change s move s')
    (hstop : s.stopRequested = true) : s'.stopRequested = true := by
  cases h with
  | stops => rfl
  | _ => exact hstop

theorem stopRequested_of_prepare {options : Options} {size : TerminalSize} {setup : Setup}
    (h : (prepare options size setup).1 = .ok s) : s.stopRequested = false := by
  rw [prepare] at h
  split at h
  · cases h
    rfl
  · cases h

/-- A session that runs, has been asked to stop and is at rest has been cancelled. -/
theorem isCancelled_of_stopRequested (hstarted : s.startedAt.isSome)
    (hstop : s.stopRequested = true) (hrest : s.step = none) : s.isCancelled = true := by
  have hstep : s.stepStop = none := stepOf_eq_none hrest .stop
  by_contra hopen
  rw [stepStop, if_pos ⟨hstarted, hstop, hopen⟩] at hstep
  cases hstep

/-- A session that runs and has been asked to stop is cancelled when it has settled. -/
theorem isCancelled_settle (hstarted : s.startedAt.isSome) (hstop : s.stopRequested = true) :
    s.settle.isCancelled = true := by
  obtain ⟨tasks, hplay⟩ := s.exists_turns_settle
  have hsettled : s.settle.startedAt.isSome ∧ s.settle.stopRequested = true := by
    refine play?_invariant (P := fun s => s.startedAt.isSome ∧ s.stopRequested = true) ?_ hplay
      ⟨hstarted, hstop⟩
    intro s move s' hmake ⟨hstarted, hstop⟩
    have hchange := change_of_make? hmake
    obtain ⟨start, hstart⟩ := Option.isSome_iff_exists.mp hstarted
    refine ⟨?_, stopRequested_of_change_of_stopRequested hchange hstop⟩
    rw [startedAt_of_change hchange hstart]
    rfl
  exact isCancelled_of_stopRequested hsettled.1 hsettled.2 s.step_settle

end Session

namespace Hub.Floor

variable {floor floor' : Floor} {limit : Nat} {id : String} {token : Token} {slot : Slot}
  {session : Session} {move : FloorMove} {past moves later : List FloorMove}

/-! ## Tokens -/

theorem isCancelled_iff :
    floor.isCancelled token = true ↔ ∃ above ∈ token.lineage, above ∈ floor.cancelled := by
  simp [isCancelled]

theorem isCancelled_shutdown_iff :
    floor.isCancelled .shutdown = true ↔ Token.shutdown ∈ floor.cancelled := by
  simp [isCancelled_iff]

theorem isCancelled_ofSession_iff :
    floor.isCancelled (.ofSession id) = true ↔
      Token.ofSession id ∈ floor.cancelled ∨ Token.shutdown ∈ floor.cancelled := by
  simp [isCancelled_iff]

/-- Cancelling a token cancels those below it as well, and no others. -/
theorem isCancelled_cancel_iff {other : Token} :
    (floor.cancel token).isCancelled other = true ↔
      token ∈ other.lineage ∨ floor.isCancelled other = true := by
  rw [isCancelled_iff, isCancelled_iff]
  constructor
  · rintro ⟨above, hlineage, hcancelled⟩
    obtain rfl | hbefore := List.mem_cons.mp hcancelled
    · exact .inl hlineage
    · exact .inr ⟨above, hlineage, hbefore⟩
  · rintro (hlineage | ⟨above, hlineage, hbefore⟩)
    · exact ⟨token, hlineage, List.mem_cons_self⟩
    · exact ⟨above, hlineage, List.mem_cons_of_mem _ hbefore⟩

/-- A token is cancelled by the shutdown, or by the kill of a session on the roster. -/
theorem mem_cancelled_of_change (hchange : Change floor move floor') :
    token ∈ floor'.cancelled ↔ token ∈ floor.cancelled ∨
      token = .shutdown ∧ move = .shutDown ∨
      ∃ id, token = .ofSession id ∧ move = .kill id ∧ id ∈ floor.roster.ids := by
  cases hchange with
  | @kills killed hlisted =>
    simp only [cancel, List.mem_cons]
    constructor
    · rintro (rfl | hbefore)
      · exact .inr (.inr ⟨killed, rfl, rfl, hlisted⟩)
      · exact .inl hbefore
    · rintro (hbefore | ⟨-, hmove⟩ | ⟨id, rfl, hmove, -⟩)
      · exact .inr hbefore
      · cases hmove
      · cases hmove
        exact .inl rfl
  | killsNobody hunlisted =>
    constructor
    · exact .inl
    · rintro (hbefore | ⟨-, hmove⟩ | ⟨id, -, hmove, hlisted⟩)
      · exact hbefore
      · cases hmove
      · cases hmove
        exact absurd hlisted hunlisted
  | shutsDown => simp [shutDown, cancel, or_comm]
  | drops => simp [drop]
  | setsUp | acts => simp [setSession]
  | _ => simp

/-- A session was killed in a run while it was on the roster. -/
def WasKilled (limit : Nat) (moves : List FloorMove) (id : String) : Prop :=
  ∃ before floor after, moves = before ++ .kill id :: after ∧
    (fresh limit).play? before = some floor ∧ id ∈ floor.roster.ids

/-- A run with one move more has one more kill at most. -/
theorem wasKilled_concat_iff (hplay : (fresh limit).play? past = some floor) :
    WasKilled limit (past ++ [move]) id ↔
      WasKilled limit past id ∨ move = .kill id ∧ id ∈ floor.roster.ids := by
  constructor
  · rintro ⟨before, state, after, hmoves, hbefore, hlisted⟩
    -- The kill is the last move, or it lies before the last move.
    obtain rfl | ⟨earlier, last, rfl⟩ := List.eq_nil_or_concat after
    · obtain ⟨rfl, hmove⟩ := List.append_inj' hmoves rfl
      rw [hplay] at hbefore
      cases hbefore
      exact .inr ⟨List.head_eq_of_cons_eq hmove, hlisted⟩
    · rw [List.concat_eq_append, ← List.cons_append, ← List.append_assoc] at hmoves
      obtain ⟨rfl, -⟩ := List.append_inj' hmoves rfl
      exact .inl ⟨before, state, earlier, rfl, hbefore, hlisted⟩
  · rintro (⟨before, state, after, rfl, hbefore, hlisted⟩ | ⟨rfl, hlisted⟩)
    · exact ⟨before, state, after ++ [move], by simp, hbefore, hlisted⟩
    · exact ⟨past, floor, [], rfl, hplay, hlisted⟩

/-- Which tokens have been cancelled in a run. -/
theorem mem_cancelled_of_play? (hplay : (fresh limit).play? moves = some floor) :
    (Token.shutdown ∈ floor.cancelled ↔ .shutDown ∈ moves) ∧
      ∀ id, Token.ofSession id ∈ floor.cancelled ↔ WasKilled limit moves id := by
  refine play?_induction (P := fun moves floor =>
    (Token.shutdown ∈ floor.cancelled ↔ .shutDown ∈ moves) ∧
      ∀ id, Token.ofSession id ∈ floor.cancelled ↔ WasKilled limit moves id) ?_ ?_ hplay
  · constructor
    · simp [fresh]
    · intro id
      simp [fresh, WasKilled]
  · intro past last move next hpast hchange ⟨hshutdown, hkilled⟩
    constructor
    · rw [mem_cancelled_of_change hchange, hshutdown, List.mem_append, List.mem_singleton]
      simp [Token.ofSession, eq_comm]
    · intro id
      rw [mem_cancelled_of_change hchange, hkilled, wasKilled_concat_iff hpast]
      simp [Token.ofSession_ne_shutdown, Token.ofSession_inj]

/-! ## What the sessions are told -/

/-- Every session has been asked to stop if and only if its token is cancelled. -/
def Informed (floor : Floor) : Prop :=
  ∀ slot ∈ floor.slots, ∀ session, slot.session = some session →
    session.stopRequested = floor.isCancelled slot.token

/-- The roster and the sessions know of the tokens that are cancelled. -/
structure Tells (floor : Floor) : Prop where
  shutDown : floor.roster.isShutDown = true ↔ Token.shutdown ∈ floor.cancelled
  stopped : ∀ id, id ∈ floor.roster.stopped ↔ Token.ofSession id ∈ floor.cancelled
  sessions : floor.Informed

/-- A session in a slot knows of its token. -/
theorem Tells.stopRequested_eq (h : floor.Tells) (hslot : floor.slot? id = some slot)
    (hsession : slot.session = some session) :
    session.stopRequested = floor.isCancelled (.ofSession id) := by
  have htold := h.sessions slot (mem_of_slot? hslot) session hsession
  rw [Slot.token, id_of_slot? hslot] at htold
  exact htold

/-- Sessions are told when a token is cancelled. -/
theorem Informed.cancel (h : floor.Informed) (token : Token) :
    (floor.cancel token).Informed := by
  intro slot hslot session hsession
  obtain ⟨old, hold, rfl⟩ := List.mem_map.mp hslot
  by_cases hbelow : token ∈ old.token.lineage
  · rw [if_pos hbelow] at hsession ⊢
    obtain ⟨before, -, rfl⟩ := Option.map_eq_some_iff.mp hsession
    have htoken : old.stop.token = old.token := rfl
    rw [htoken, isCancelled_cancel_iff.mpr (.inl hbelow)]
    rfl
  · rw [if_neg hbelow] at hsession ⊢
    rw [h old hold session hsession, Bool.eq_iff_iff, isCancelled_cancel_iff]
    simp [hbelow]

/-- A session that knows of its token is put into its slot. -/
theorem Informed.setSession (h : floor.Informed)
    (hnew : session.stopRequested = floor.isCancelled (.ofSession id)) :
    (floor.setSession id session).Informed := by
  intro slot hslot current hcurrent
  obtain ⟨old, hold, rfl⟩ := List.mem_map.mp hslot
  by_cases hid : old.id = id
  · rw [if_pos hid] at hcurrent ⊢
    cases hcurrent
    rw [hnew, ← hid]
    rfl
  · rw [if_neg hid] at hcurrent ⊢
    exact h old hold current hcurrent

theorem tells_of_change (hchange : Change floor move floor') (h : floor.Tells) :
    floor'.Tells := by
  cases hchange with
  | clones | attaches => exact { h with }
  | refuses | killsNobody | setUpFails => exact h
  | reserves =>
    refine { h with sessions := ?_ }
    intro slot hslot session hsession
    obtain hold | hnew := List.mem_append.mp hslot
    · exact h.sessions slot hold session hsession
    · rw [List.mem_singleton.mp hnew] at hsession
      cases hsession
  | @kills killed =>
    refine ⟨?_, ?_, ?_⟩
    · simpa [cancel, (Token.ofSession_ne_shutdown killed).symm] using h.shutDown
    · intro id
      simp [cancel, Token.ofSession_inj, h.stopped id]
    · exact h.sessions.cancel _
  | @setsUp id _ _ _ session _ _ hprepare =>
    have hfresh := Session.stopRequested_of_prepare hprepare
    refine { h with sessions := h.sessions.setSession ?_ }
    by_cases hcancelled : floor.isCancelled (.ofSession id) = true
    · rw [if_pos hcancelled, hcancelled]
      rfl
    · rw [if_neg hcancelled, hfresh, Bool.not_eq_true _ |>.mp hcancelled]
  | acts hmove hslot hsession hmake =>
    have hkept := Session.stopRequested_of_change (Session.change_of_make? hmake) hmove
    have htold := h.stopRequested_eq hslot hsession
    exact { h with sessions := h.sessions.setSession (hkept.trans htold) }
  | drops =>
    refine { h with sessions := ?_ }
    intro slot hslot session hsession
    exact h.sessions slot (List.mem_filter.mp hslot).1 session hsession
  | shutsDown =>
    refine ⟨?_, ?_, ?_⟩
    · simp [Floor.shutDown, cancel, Roster.shutDown]
    · intro id
      simpa [Floor.shutDown, cancel, Roster.shutDown, Token.ofSession_ne_shutdown]
        using h.stopped id
    · exact h.sessions.cancel _

theorem tells_of_play? (hplay : (fresh limit).play? moves = some floor) : floor.Tells := by
  refine play?_induction (P := fun _ floor => floor.Tells) ?_
    (fun _ _ _ _ _ hchange h => tells_of_change hchange h) hplay
  constructor <;> simp [fresh, Roster.ofLimit, Informed]

/-- The roster tells who has to stop as the tokens do. -/
theorem Tells.isStopped_eq (h : floor.Tells) (id : String) :
    floor.roster.isStopped id = floor.isCancelled (.ofSession id) := by
  rw [Bool.eq_iff_iff, isCancelled_ofSession_iff, Roster.isStopped, Bool.or_eq_true,
    List.contains_iff_mem, h.shutDown, h.stopped, or_comm]

/-! ## What the others do -/

/-- A session stays on the roster until its slot is dropped. -/
theorem mem_ids_of_change (hchange : Change floor move floor') (hlisted : id ∈ floor.roster.ids)
    (hdrop : move ≠ .drop id) : id ∈ floor'.roster.ids := by
  cases hchange with
  | reserves =>
    simp only [Roster.ids, List.map_append] at hlisted ⊢
    exact List.mem_append_left _ hlisted
  | attaches =>
    rw [Roster.ids_setStage]
    exact hlisted
  | @drops dropped =>
    obtain ⟨entry, hentry, rfl⟩ := List.mem_map.mp hlisted
    have hother : entry.id ≠ dropped := fun heq => hdrop (heq ▸ rfl)
    have hkept : entry ∈ (floor.drop dropped).roster.entries :=
      List.mem_filter.mpr ⟨hentry, decide_eq_true hother⟩
    exact List.mem_map_of_mem hkept
  | _ => exact hlisted

theorem mem_ids_of_play? (hplay : floor.play? later = some floor') (hlisted : id ∈ floor.roster.ids)
    (hdrop : .drop id ∉ later) : id ∈ floor'.roster.ids := by
  refine play?_induction (P := fun moves floor => .drop id ∉ moves → id ∈ floor.roster.ids)
    (fun _ => hlisted) ?_ hplay hdrop
  intro past last move next _ hchange ih hdrop
  rw [List.mem_append, List.mem_singleton, not_or] at hdrop
  exact mem_ids_of_change hchange (ih hdrop.1) fun heq => hdrop.2 heq.symm

theorem find?_map_slots {f : Slot → Slot} (hid : ∀ slot, (f slot).id = slot.id) (slots : List Slot)
    (id : String) :
    (slots.map f).find? (·.id = id) = (slots.find? (·.id = id)).map f := by
  rw [List.find?_map]
  congr 2
  funext slot
  simp [hid]

theorem slot?_cancel (floor : Floor) (token : Token) (id : String) :
    (floor.cancel token).slot? id = (floor.slot? id).map fun slot =>
      if token ∈ slot.token.lineage then slot.stop else slot := by
  refine find?_map_slots ?_ _ _
  intro slot
  split <;> rfl

theorem slot?_setSession (floor : Floor) (id other : String) (session : Session) :
    (floor.setSession id session).slot? other = (floor.slot? other).map fun slot =>
      if slot.id = id then { slot with session := some session } else slot := by
  refine find?_map_slots ?_ _ _
  intro slot
  split <;> rfl

/-- A slot that is not changed where it is found. -/
theorem map_slot?_eq {f : Slot → Slot} (h : ∀ slot, slot.id = id → f slot = slot) :
    (floor.slot? id).map f = floor.slot? id := by
  cases hslot : floor.slot? id with
  | none => rfl
  | some slot => exact congrArg some (h slot (id_of_slot? hslot))

/-- A move that is about another session does not change the slot of a session. -/
theorem slot?_of_change (hchange : Change floor move floor') (hother : move.subject? ≠ some id)
    (hup : move ≠ .shutDown) : floor'.slot? id = floor.slot? id := by
  have hne {other : String} (heq : some other ≠ some id) : id ≠ other := fun h => heq (h ▸ rfl)
  cases hchange with
  | reserves =>
    have hne := hne hother
    simp [slot?, List.find?_append, hne.symm]
  | @kills other =>
    have hne := hne hother
    rw [slot?_cancel]
    refine map_slot?_eq fun slot hslot => if_neg ?_
    simp [Slot.token, hslot, Token.ofSession_inj, Token.ofSession_ne_shutdown, hne.symm]
  | setsUp | acts =>
    -- Only the slot that has the name of the move gets another session.
    have hne := hne hother
    rw [slot?_setSession]
    exact map_slot?_eq fun slot hslot => if_neg (hslot ▸ hne)
  | @drops other =>
    have hne := hne hother
    rw [slot?, drop, List.find?_filter]
    congr 1
    funext slot
    by_cases hslot : slot.id = id <;> simp [hslot, hne]
  | shutsDown => exact absurd rfl hup
  | _ => rfl

/-- A token is left alone by a move that does not name it. -/
theorem mem_cancelled_iff_of_change (hchange : Change floor move floor')
    (hup : move = .shutDown → token ≠ .shutdown)
    (hkill : ∀ id, move = .kill id → token ≠ .ofSession id) :
    token ∈ floor'.cancelled ↔ token ∈ floor.cancelled := by
  rw [mem_cancelled_of_change hchange]
  constructor
  · rintro (hbefore | ⟨htoken, hmove⟩ | ⟨id, htoken, hmove, -⟩)
    · exact hbefore
    · exact absurd htoken (hup hmove)
    · exact absurd htoken (hkill id hmove)
  · exact .inl

/-- Only the shutdown cancels the token of the hub. -/
theorem isCancelled_shutdown_of_play? (hplay : floor.play? later = some floor')
    (hup : .shutDown ∉ later) : floor'.isCancelled .shutdown = floor.isCancelled .shutdown := by
  refine play?_induction (P := fun moves state =>
    .shutDown ∉ moves → state.isCancelled .shutdown = floor.isCancelled .shutdown)
    (fun _ => rfl) ?_ hplay hup
  intro past last move next _ hchange ih hup
  rw [List.mem_append, List.mem_singleton, not_or] at hup
  rw [← ih hup.1, Bool.eq_iff_iff, isCancelled_shutdown_iff, isCancelled_shutdown_iff]
  exact mem_cancelled_iff_of_change hchange (fun heq => absurd heq.symm hup.2)
    fun killed _ => (Token.ofSession_ne_shutdown killed).symm

/-- Moves that are about other sessions, and are no shutdown, do not cancel the token of a
session, and do not change its slot. -/
theorem isolated_of_play? (hplay : floor.play? later = some floor') (hup : .shutDown ∉ later)
    (hother : ∀ move ∈ later, move.subject? ≠ some id) :
    floor'.isCancelled (.ofSession id) = floor.isCancelled (.ofSession id) ∧
      floor'.slot? id = floor.slot? id := by
  refine play?_induction (P := fun moves state => .shutDown ∉ moves →
    (∀ move ∈ moves, move.subject? ≠ some id) →
      state.isCancelled (.ofSession id) = floor.isCancelled (.ofSession id) ∧
        state.slot? id = floor.slot? id) (fun _ _ => ⟨rfl, rfl⟩) ?_ hplay hup hother
  intro past last move next _ hchange ih hup hother
  rw [List.mem_append, List.mem_singleton, not_or] at hup
  rw [List.forall_mem_append, List.forall_mem_singleton] at hother
  obtain ⟨htoken, hslot⟩ := ih hup.1 hother.1
  have hup : move ≠ .shutDown := Ne.symm hup.2
  have hkill : ∀ killed, move = .kill killed → Token.ofSession id ≠ .ofSession killed := by
    rintro killed rfl heq
    exact hother.2 (Token.ofSession_inj.mp heq ▸ rfl)
  constructor
  · rw [← htoken, Bool.eq_iff_iff, isCancelled_ofSession_iff, isCancelled_ofSession_iff,
      mem_cancelled_iff_of_change hchange (fun heq => absurd heq hup) hkill,
      mem_cancelled_iff_of_change hchange (fun heq => absurd heq hup)
        fun killed _ => (Token.ofSession_ne_shutdown killed).symm]
  · rw [slot?_of_change hchange hother.2 hup, hslot]

/-- What a session can do by itself it can do on the floor. -/
theorem exists_play?_acts {acts : List Move} {s t : Session} (hplay : s.play? acts = some t)
    (hacts : ∀ act ∈ acts, act.asksToStop = false) (hslot : floor.slot? id = some slot)
    (hsession : slot.session = some s) :
    ∃ floor', floor.play? (acts.map (.act id)) = some floor' ∧
      floor'.slot? id = some { slot with session := some t } := by
  induction acts generalizing floor slot s with
  | nil =>
    cases hplay
    refine ⟨floor, rfl, ?_⟩
    rw [hslot, ← hsession]
  | cons act rest ih =>
    obtain ⟨s', hmake, hrest⟩ := Session.play?_cons_eq_some hplay
    rw [List.forall_mem_cons] at hacts
    have hnext : floor.make? (.act id act) = some (floor.setSession id s') := by
      simp [make?, hacts.1, hslot, hsession, hmake]
    have hslot' : (floor.setSession id s').slot? id = some { slot with session := some s' } := by
      rw [slot?_setSession, hslot, Option.map_some, if_pos (id_of_slot? hslot)]
    obtain ⟨floor', hplay', hslot''⟩ := ih hrest hacts.2 hslot' rfl
    refine ⟨floor', ?_, hslot''⟩
    rw [List.map_cons, play?, List.foldlM_cons, hnext]
    exact hplay'

end Hub.Floor

namespace Hub

/-- The answer to a request to stop a session tells whether it is on the roster. -/
theorem stopSession_eq (hub : Hub) {escaped : String} {name : List Char}
    (hname : Text.decode? (Text.Percent.unescape (Text.utf8 escaped.toList)) = some name) :
    ((hub.stopSession escaped).1.status = 200 ↔ .ofList name ∈ hub.roster.ids) ∧
      (hub.stopSession escaped).2.roster = hub.roster.kill (.ofList name) := by
  rw [stopSession, hname]
  by_cases hlisted : hub.roster.contains (.ofList name) = true
  · simp only [if_pos hlisted]
    exact ⟨by simp [Http.Response.json, List.contains_iff_mem.mp hlisted], rfl⟩
  · simp only [if_neg hlisted]
    have hunlisted : .ofList name ∉ hub.roster.ids := fun h => hlisted (List.contains_iff_mem.mpr h)
    refine ⟨by simp [Http.Response.json, hunlisted], ?_⟩
    rw [Roster.kill, if_neg hlisted]

namespace Floor

/-- Whatever handlers do, in any order. The token of the hub is cancelled if and only if the
hub was shut down, and the token of a session if and only if the session was killed while it
was on the roster, or the hub was shut down before or after. The roster tells the same, and
a kill is answered with whether there was an entry. A session knows of its token from the
start. So a session that was killed at any time since its reservation is cancelled once it
runs and is at rest, and its tasks can always take it there; it stays on the roster until
its slot is dropped. Whatever else happens on the floor, the end of a session or its kill
included, only the shutdown cancels the token of the hub, and what is done about other
sessions leaves the token and the slot of a session as they were. -/
theorem stops_are_kept_and_isolated {limit : Nat} {moves : List FloorMove} {floor : Floor}
    (hplay : (fresh limit).play? moves = some floor) :
    (floor.isCancelled .shutdown = true ↔ .shutDown ∈ moves) ∧
      (∀ id, floor.isCancelled (.ofSession id) = true ↔
        WasKilled limit moves id ∨ .shutDown ∈ moves) ∧
      (∀ id, floor.roster.isStopped id = floor.isCancelled (.ofSession id)) ∧
      (∀ id, (floor.kill id).1 = true ↔ id ∈ floor.roster.ids) ∧
      (∀ (hub : Hub) (escaped : String) (name : List Char), hub.roster = floor.roster →
        Text.decode? (Text.Percent.unescape (Text.utf8 escaped.toList)) = some name →
          ((hub.stopSession escaped).1.status = 200 ↔ (floor.kill (.ofList name)).1 = true) ∧
            (hub.stopSession escaped).2.roster = (floor.kill (.ofList name)).2.roster) ∧
      (∀ id slot s, floor.slot? id = some slot → slot.session = some s →
        s.stopRequested = floor.isCancelled (.ofSession id) ∧
          (WasKilled limit moves id ∨ .shutDown ∈ moves → s.startedAt.isSome →
            (s.step = none → s.isCancelled = true) ∧
              ∃ (tasks : List Session.Task) (floor' : Floor),
                floor.play? ((tasks.map .turn).map (.act id)) = some floor' ∧
                  floor'.slot? id = some { slot with session := some s.settle } ∧
                  s.settle.step = none ∧ s.settle.isCancelled = true)) ∧
      ∀ later floor', floor.play? later = some floor' →
        (∀ id ∈ floor.roster.ids, .drop id ∉ later → id ∈ floor'.roster.ids) ∧
          (.shutDown ∉ later → floor'.isCancelled .shutdown = floor.isCancelled .shutdown ∧
            ∀ id, (∀ move ∈ later, move.subject? ≠ some id) →
              floor'.isCancelled (.ofSession id) = floor.isCancelled (.ofSession id) ∧
                floor'.slot? id = floor.slot? id) := by
  obtain ⟨hshutdown, hkilled⟩ := mem_cancelled_of_play? hplay
  have htells := tells_of_play? hplay
  have htoken (id : String) : floor.isCancelled (.ofSession id) = true ↔
      WasKilled limit moves id ∨ .shutDown ∈ moves := by
    rw [isCancelled_ofSession_iff, hkilled, hshutdown]
  refine ⟨?_, htoken, htells.isStopped_eq, fun id => fst_kill_iff, ?_, ?_, ?_⟩
  · rw [isCancelled_shutdown_iff, hshutdown]
  · intro hub escaped name hroster hname
    obtain ⟨hstatus, hkill⟩ := hub.stopSession_eq hname
    rw [hstatus, hkill, hroster, fst_kill_iff, roster_kill]
    exact ⟨Iff.rfl, rfl⟩
  · intro id slot s hslot hsession
    have htold := htells.stopRequested_eq hslot hsession
    refine ⟨htold, fun hstopped hstarted => ?_⟩
    have hstop : s.stopRequested = true := htold.trans ((htoken id).mpr hstopped)
    obtain ⟨tasks, hturns⟩ := s.exists_turns_settle
    obtain ⟨floor', hplay', hslot'⟩ :=
      exists_play?_acts hturns (by simp [Move.asksToStop]) hslot hsession
    exact ⟨Session.isCancelled_of_stopRequested hstarted hstop, tasks, floor', hplay', hslot',
      s.step_settle, Session.isCancelled_settle hstarted hstop⟩
  · intro later floor' hlater
    refine ⟨fun id hlisted hdrop => mem_ids_of_play? hlater hlisted hdrop, fun hup => ?_⟩
    exact ⟨isCancelled_shutdown_of_play? hlater hup,
      fun id hother => isolated_of_play? hlater hup hother⟩

/-- Two sessions are entered. -/
def entersTwo : List FloorMove :=
  [.reserve 0 "a" ⟨"sh", "/", ⟨80, 24⟩⟩ 1, .reserve 0 "b" ⟨"sh", "/", ⟨80, 24⟩⟩ 1]

/-- One of two sessions is killed before it has been set up, and is cancelled once it runs;
the other one is not told to stop, and neither is the hub. -/
theorem early_kill_is_kept :
    ∃ floor slot s, (fresh 2).play? (entersTwo ++ .kill "a" ::
        [.setUp "a" .standard .smooth, .act "a" (.act .run)]) = some floor ∧
      floor.slot? "a" = some slot ∧ slot.session = some s ∧ s.startedAt.isSome ∧
      floor.isCancelled .shutdown = false ∧ floor.isCancelled (.ofSession "a") = true ∧
      floor.isCancelled (.ofSession "b") = false ∧ s.settle.isCancelled = true := by
  have hlisted : ∃ state ∈ (fresh 2).play? entersTwo, "a" ∈ state.roster.ids := by
    decide +kernel
  have hruns : ∃ floor ∈ (fresh 2).play? (entersTwo ++ .kill "a" ::
      [.setUp "a" .standard .smooth, .act "a" (.act .run)]), ∃ slot ∈ floor.slot? "a",
        ∃ s ∈ slot.session, s.startedAt.isSome ∧ floor.isCancelled (.ofSession "b") = false := by
    decide +kernel
  obtain ⟨state, hbefore, hlisted⟩ := hlisted
  obtain ⟨floor, hplay, slot, hslot, s, hsession, hstarted, hother⟩ := hruns
  have hkilled : WasKilled 2 (entersTwo ++ .kill "a" ::
      [.setUp "a" .standard .smooth, .act "a" (.act .run)]) "a" :=
    ⟨entersTwo, state, _, rfl, hbefore, hlisted⟩
  obtain ⟨hshutdown, htoken, -, -, -, hsessions, -⟩ := stops_are_kept_and_isolated hplay
  obtain ⟨-, hstop⟩ := hsessions "a" slot s hslot hsession
  obtain ⟨-, -, -, -, -, -, hsettled⟩ := hstop (.inl hkilled) hstarted
  refine ⟨floor, slot, s, hplay, hslot, hsession, hstarted, ?_, (htoken "a").mpr (.inl hkilled),
    hother, hsettled⟩
  rw [Bool.eq_false_iff]
  intro hup
  simpa [entersTwo] using hshutdown.mp hup

end Floor

end Hub

end RemoteShell

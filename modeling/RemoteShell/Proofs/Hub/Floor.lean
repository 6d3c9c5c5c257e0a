import Mathlib.Data.List.Induction
import RemoteShell.Hub.Roster
import RemoteShell.Proofs.Session.Run

/-!
# The floor of a hub

Each session of a hub has a handler. The handler takes a slot on the roster, sets the
session up, lets it run, and drops the slot, which takes the session off the roster. All
handlers share the roster through handles to it, and each session has a token to be stopped
with, which is made below the token that the hub shuts down with.

The moves of different handlers come in any order, and a handler may drop its slot at any
time. What a move can do is said once (`Floor.Change`), and what is true of all runs is
proved by going through it (`Floor.play?_induction`).
-/

namespace RemoteShell

/-- Tells whether a move asks the session to stop. -/
def Move.asksToStop : Move → Bool
  | act .stop => true
  | _ => false

namespace Hub

/-! ## Tokens -/

/-- A token that work is stopped with. -/
inductive Token where
  /-- The token that the hub shuts down with. -/
  | shutdown
  /-- A token that was made below another one. -/
  | child (parent : Token) (name : String)
  deriving DecidableEq, Repr

namespace Token

/-- The token of a session. -/
def ofSession (id : String) : Token := shutdown.child id

/-- A token and those above it. -/
def lineage : Token → List Token
  | shutdown => [shutdown]
  | child parent name => child parent name :: parent.lineage

@[simp] theorem lineage_shutdown : shutdown.lineage = [shutdown] := rfl

@[simp] theorem lineage_ofSession (id : String) :
    (ofSession id).lineage = [ofSession id, shutdown] := rfl

theorem ofSession_ne_shutdown (id : String) : ofSession id ≠ shutdown := nofun

theorem ofSession_inj {id other : String} : ofSession id = ofSession other ↔ id = other := by
  simp [ofSession]

end Token

/-! ## The floor -/

/-- The slot that a handler holds. -/
structure Slot where
  id : String
  spec : Spec
  /-- The session; none until it has been set up. -/
  session : Option Session

namespace Slot

/-- The token that the session is stopped with. -/
def token (slot : Slot) : Token := .ofSession slot.id

/-- Tells the session to stop. -/
def stop (slot : Slot) : Slot := { slot with session := slot.session.map Session.stop }

end Slot

/-- What the handlers of a hub share, and the slots that they hold. -/
structure Floor where
  roster : Roster
  /-- Each handle to the roster has its own copy of the limit. -/
  limits : List Nat
  slots : List Slot
  /-- All names that were ever given to a session. -/
  issued : List String
  /-- The tokens that were cancelled themselves. -/
  cancelled : List Token

/-- A move on the floor. -/
inductive FloorMove where
  /-- A handle is cloned. -/
  | clone (handle : Nat)
  | reserve (handle : Nat) (id : String) (spec : Spec) (now : Nat)
  | kill (id : String)
  /-- A handler sets its session up. -/
  | setUp (id : String) (options : Options) (setup : Setup)
  /-- A handler attaches the stage of its session to its entry. -/
  | attach (id : String) (stage : Lifecycle)
  /-- A session makes a move, or its caller does. -/
  | act (id : String) (move : Move)
  /-- A handler is over, wherever it is. -/
  | drop (id : String)
  | shutDown

/-- The session that a move is about. -/
def FloorMove.subject? : FloorMove → Option String
  | reserve _ id _ _ | kill id | setUp id _ _ | attach id _ | act id _ | drop id => some id
  | clone _ | shutDown => none

namespace Floor

/-- The floor of a hub that has just been started. -/
def fresh (limit : Nat) : Floor := ⟨.ofLimit limit, [limit], [], [], []⟩

/-- The slot of a session. -/
def slot? (floor : Floor) (id : String) : Option Slot := floor.slots.find? (·.id = id)

/-- A token is cancelled if it or one above it was. -/
def isCancelled (floor : Floor) (token : Token) : Bool := token.lineage.any floor.cancelled.contains

/-- Cancels a token. Every session whose token is below it is told to stop. -/
def cancel (floor : Floor) (token : Token) : Floor :=
  { floor with
    slots := floor.slots.map fun slot => if token ∈ slot.token.lineage then slot.stop else slot
    cancelled := token :: floor.cancelled }

/-- Reserves a slot through a handle with the given limit. -/
def reserve (floor : Floor) (limit : Nat) (id : String) (spec : Spec) (now : Nat) :
    Except LimitReached Floor :=
  (({ floor.roster with limit } : Roster).reserve id spec now).map fun roster =>
    { floor with
      roster
      slots := floor.slots ++ [⟨id, spec, none⟩]
      issued := id :: floor.issued }

/-- Stops a session, and tells whether there is one to stop. -/
def kill (floor : Floor) (id : String) : Bool × Floor :=
  if floor.roster.contains id then
    (true, cancel { floor with roster := floor.roster.kill id } (.ofSession id))
  else (false, floor)

/-- Puts a session into its slot. -/
def setSession (floor : Floor) (id : String) (session : Session) : Floor :=
  { floor with
    slots := floor.slots.map fun slot =>
      if slot.id = id then { slot with session := some session } else slot }

/-- Sets the session of a slot up. It knows from the start whether it has to stop. -/
def setUp (floor : Floor) (slot : Slot) (options : Options) (setup : Setup) : Floor :=
  match (Session.prepare options slot.spec.size setup).1 with
  | .ok session =>
    floor.setSession slot.id (if floor.isCancelled slot.token then session.stop else session)
  | .error _ => floor

/-- Gives a slot up. -/
def drop (floor : Floor) (id : String) : Floor :=
  { floor with
    roster := floor.roster.release id
    slots := floor.slots.filter (·.id ≠ id) }

/-- Shuts the hub down. -/
def shutDown (floor : Floor) : Floor :=
  cancel { floor with roster := floor.roster.shutDown } .shutdown

/-- Makes a move; none if it cannot be made. A name is given only once, a handler works on
a slot that it holds, and a session is asked to stop by its token only. -/
def make? (floor : Floor) : FloorMove → Option Floor
  | .clone handle =>
    floor.limits[handle]?.map fun limit => { floor with limits := floor.limits ++ [limit] }
  | .reserve handle id spec now =>
    if id ∈ floor.issued then none
    else
      floor.limits[handle]?.map fun limit =>
        (floor.reserve limit id spec now).toOption.getD floor
  | .kill id => some (floor.kill id).2
  | .setUp id options setup =>
    (floor.slot? id).bind fun slot =>
      if slot.session.isSome then none else some (floor.setUp slot options setup)
  | .attach id stage =>
    (floor.slot? id).map fun _ => { floor with roster := floor.roster.setStage id stage }
  | .act id move =>
    if move.asksToStop then none
    else
      (((floor.slot? id).bind Slot.session).bind (·.make? move)).map (floor.setSession id)
  | .drop id => (floor.slot? id).map fun _ => floor.drop id
  | .shutDown => some floor.shutDown

/-- Makes one move after the other. -/
def play? (floor : Floor) (moves : List FloorMove) : Option Floor := moves.foldlM make? floor

/-! ## What a move can change -/

/-- The kinds of moves. -/
inductive Change (floor : Floor) : FloorMove → Floor → Prop
  | clones {handle limit : Nat} (hhandle : limit ∈ floor.limits) :
      Change floor (.clone handle) { floor with limits := floor.limits ++ [limit] }
  | reserves {handle limit now : Nat} {id : String} {spec : Spec} (hhandle : limit ∈ floor.limits)
      (hfresh : id ∉ floor.issued) (hroom : floor.roster.count < limit) :
      Change floor (.reserve handle id spec now)
        { floor with
          roster := { floor.roster with
            limit
            entries := floor.roster.entries ++ [⟨id, spec, now, none⟩] }
          slots := floor.slots ++ [⟨id, spec, none⟩]
          issued := id :: floor.issued }
  | refuses {handle limit now : Nat} {id : String} {spec : Spec} (hhandle : limit ∈ floor.limits)
      (hfull : limit ≤ floor.roster.count) : Change floor (.reserve handle id spec now) floor
  | kills {id : String} (hlisted : id ∈ floor.roster.ids) :
      Change floor (.kill id)
        (cancel
          { floor with roster := { floor.roster with stopped := id :: floor.roster.stopped } }
          (.ofSession id))
  | killsNobody {id : String} (hunlisted : id ∉ floor.roster.ids) : Change floor (.kill id) floor
  | setsUp {id : String} {options : Options} {setup : Setup} {slot : Slot} {session : Session}
      (hslot : floor.slot? id = some slot) (hnew : slot.session = none)
      (hprepare : (Session.prepare options slot.spec.size setup).1 = .ok session) :
      Change floor (.setUp id options setup)
        (floor.setSession id
          (if floor.isCancelled (.ofSession id) then session.stop else session))
  | setUpFails {id : String} {options : Options} {setup : Setup} :
      Change floor (.setUp id options setup) floor
  | attaches {id : String} {stage : Lifecycle} :
      Change floor (.attach id stage) { floor with roster := floor.roster.setStage id stage }
  | acts {id : String} {move : Move} {slot : Slot} {session session' : Session}
      (hmove : move.asksToStop = false) (hslot : floor.slot? id = some slot)
      (hsession : slot.session = some session) (hmake : session.make? move = some session') :
      Change floor (.act id move) (floor.setSession id session')
  | drops {id : String} {slot : Slot} (hslot : floor.slot? id = some slot) :
      Change floor (.drop id) (floor.drop id)
  | shutsDown : Change floor .shutDown floor.shutDown

variable {floor floor' : Floor} {id : String} {slot : Slot} {move : FloorMove}
  {moves later : List FloorMove}

theorem id_of_slot? (h : floor.slot? id = some slot) : slot.id = id := by
  simpa using List.find?_some h

theorem mem_of_slot? (h : floor.slot? id = some slot) : slot ∈ floor.slots :=
  List.mem_of_find?_eq_some h

/-- A reservation fails only for lack of room. -/
theorem reserve_eq (floor : Floor) (limit : Nat) (id : String) (spec : Spec) (now : Nat) :
    floor.reserve limit id spec now =
      if limit ≤ floor.roster.count then .error ⟨limit⟩
      else .ok
        { floor with
          roster := { floor.roster with
            limit
            entries := floor.roster.entries ++ [⟨id, spec, now, none⟩] }
          slots := floor.slots ++ [⟨id, spec, none⟩]
          issued := id :: floor.issued } := by
  have hcount : ({ floor.roster with limit } : Roster).count = floor.roster.count := rfl
  rw [reserve, Roster.reserve, hcount]
  by_cases hfull : limit ≤ floor.roster.count
  · rw [if_pos hfull, if_pos hfull]
    rfl
  · rw [if_neg hfull, if_neg hfull]
    rfl

theorem contains_iff : floor.roster.contains id = true ↔ id ∈ floor.roster.ids :=
  List.contains_iff_mem

/-- A kill is answered with whether there was an entry. -/
theorem fst_kill_iff : (floor.kill id).1 = true ↔ id ∈ floor.roster.ids := by
  rw [← contains_iff, kill]
  by_cases hlisted : floor.roster.contains id = true <;> simp [hlisted]

theorem roster_kill (floor : Floor) (id : String) :
    (floor.kill id).2.roster = floor.roster.kill id := by
  by_cases hlisted : floor.roster.contains id = true
  · rw [kill, if_pos hlisted]
    rfl
  · rw [kill, if_neg hlisted, Roster.kill, if_neg hlisted]

/-- Every move is of one of the kinds above. -/
theorem change_of_make? (h : floor.make? move = some floor') : Change floor move floor' := by
  cases move with
  | clone handle =>
    obtain ⟨limit, hlimit, rfl⟩ := Option.map_eq_some_iff.mp h
    exact .clones (List.mem_of_getElem? hlimit)
  | reserve handle id spec now =>
    by_cases hissued : id ∈ floor.issued
    · simp [make?, hissued] at h
    · simp only [make?, if_neg hissued] at h
      obtain ⟨limit, hlimit, rfl⟩ := Option.map_eq_some_iff.mp h
      have hhandle : limit ∈ floor.limits := List.mem_of_getElem? hlimit
      rw [reserve_eq]
      by_cases hfull : limit ≤ floor.roster.count
      · rw [if_pos hfull]
        exact .refuses hhandle hfull
      · rw [if_neg hfull]
        exact .reserves hhandle hissued (Nat.lt_of_not_le hfull)
  | kill id =>
    cases h
    by_cases hlisted : floor.roster.contains id = true
    · rw [kill, if_pos hlisted, Roster.kill, if_pos hlisted]
      exact .kills (contains_iff.mp hlisted)
    · rw [kill, if_neg hlisted]
      exact .killsNobody fun hmem => hlisted (contains_iff.mpr hmem)
  | setUp id options setup =>
    obtain ⟨slot, hslot, h⟩ := Option.bind_eq_some_iff.mp h
    by_cases hsome : slot.session.isSome
    · simp [hsome] at h
    · rw [if_neg hsome] at h
      cases h
      have hid := id_of_slot? hslot
      rw [setUp, Slot.token, hid]
      cases hprepare : (Session.prepare options slot.spec.size setup).1 with
      | ok session => exact .setsUp hslot (by simpa using hsome) hprepare
      | error e => exact .setUpFails
  | attach id stage =>
    obtain ⟨slot, -, rfl⟩ := Option.map_eq_some_iff.mp h
    exact .attaches
  | act id move =>
    by_cases hstop : move.asksToStop = true
    · simp [make?, hstop] at h
    · simp only [make?, if_neg hstop] at h
      obtain ⟨session', hmake, rfl⟩ := Option.map_eq_some_iff.mp h
      obtain ⟨session, hsession, hmake⟩ := Option.bind_eq_some_iff.mp hmake
      obtain ⟨slot, hslot, hsession⟩ := Option.bind_eq_some_iff.mp hsession
      exact .acts (by simpa using hstop) hslot hsession hmake
  | drop id =>
    obtain ⟨slot, hslot, rfl⟩ := Option.map_eq_some_iff.mp h
    exact .drops hslot
  | shutDown =>
    cases h
    exact .shutsDown

/-! ## Runs -/

theorem play?_append (floor : Floor) (moves later : List FloorMove) :
    floor.play? (moves ++ later) = (floor.play? moves).bind (·.play? later) :=
  List.foldlM_append

theorem play?_singleton (floor : Floor) (move : FloorMove) :
    floor.play? [move] = floor.make? move := by
  simp [play?]

/-- A run that ends with some move. -/
theorem play?_concat_eq_some_iff : floor.play? (moves ++ [move]) = some floor' ↔
    ∃ last, floor.play? moves = some last ∧ last.make? move = some floor' := by
  rw [play?_append, Option.bind_eq_some_iff]
  simp only [play?_singleton]

/-- What every move keeps holds at the end of a run. It may say something of the moves that
have been made. -/
theorem play?_induction {P : List FloorMove → Floor → Prop} (hstart : P [] floor)
    (hmove : ∀ past last move next, floor.play? past = some last → Change last move next →
      P past last → P (past ++ [move]) next)
    (hplay : floor.play? moves = some floor') : P moves floor' := by
  induction moves using List.reverseRecOn generalizing floor' with
  | nil =>
    cases hplay
    exact hstart
  | append_singleton past move ih =>
    obtain ⟨last, hpast, hmake⟩ := play?_concat_eq_some_iff.mp hplay
    exact hmove past last move floor' hpast (change_of_make? hmake) (ih hpast)

end Floor

end Hub

end RemoteShell

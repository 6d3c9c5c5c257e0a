import Mathlib.Data.List.Nodup
import RemoteShell.Hub.Router
import RemoteShell.Proofs.Hub.Accounting
import RemoteShell.Proofs.Sorting

/-!
# The order of a listing

The entries of a roster stand in the order of their reservations. A listing goes through
them in no order that anyone can rely on, and then sorts what it has met by the seconds in
which the sessions were entered. So it tells two sessions apart by age if and only if they
were entered in different seconds (`Floor.lists_in_order_iff`).
-/

namespace RemoteShell.Hub

open Http (jsonNat)

/-- What a session was reserved with. -/
def Entry.reservation (entry : Entry) : String × Spec × Nat :=
  (entry.id, entry.spec, entry.createdAt)

namespace FloorMove

/-- What a move asks a slot for, and what the clock shows then. -/
def reservation? : FloorMove → Option (String × Spec × Nat)
  | reserve _ id spec now => some (id, spec, now)
  | _ => none

/-- What the clock shows at a reservation. -/
def reading? (move : FloorMove) : Option Nat := move.reservation?.map (·.2.2)

end FloorMove

/-! ## Sorting what is met -/

namespace Roster

variable {roster : Roster} {visited : List Entry} {a b : Entry}

/-- The roster with its entries in the order in which somebody meets them. -/
def metIn (roster : Roster) (visited : List Entry) : Roster := { roster with entries := visited }

theorem pairwise_listing (roster : Roster) :
    roster.listing.Pairwise (·.createdAt ≤ ·.createdAt) :=
  Sorting.pairwise_mergeSort Entry.createdAt roster.entries

theorem listing_metIn_perm (hvisited : visited.Perm roster.entries) :
    (roster.metIn visited).listing.Perm roster.entries :=
  (List.mergeSort_perm ..).trans hvisited

/-- Whoever was entered in an earlier second is listed first. -/
theorem pair_sublist_listing (hvisited : visited.Perm roster.entries)
    (hpair : [a, b].Sublist roster.entries) (hlt : a.createdAt < b.createdAt) :
    [a, b].Sublist (roster.metIn visited).listing := by
  have hne : a ≠ b := by
    rintro rfl
    exact Nat.lt_irrefl _ hlt
  have hlisted : ∀ entry ∈ [a, b], entry ∈ (roster.metIn visited).listing :=
    fun entry hentry => (listing_metIn_perm hvisited).mem_iff.mpr (hpair.subset hentry)
  obtain hfirst | hsecond :=
    Sorting.pair_sublist_or hne (hlisted a (by simp)) (hlisted b (by simp))
  · exact hfirst
  · have hle : b.createdAt ≤ a.createdAt :=
      List.pairwise_iff_forall_sublist.mp (pairwise_listing _) hsecond
    omega

/-- Of two sessions of one second the younger is listed first when the entries are met
backwards. -/
theorem not_pair_sublist_listing_reverse (hnodup : roster.entries.Nodup)
    (hpair : [a, b].Sublist roster.entries) (hle : b.createdAt ≤ a.createdAt) :
    ¬ [a, b].Sublist (roster.metIn roster.entries.reverse).listing := by
  have hmet : [b, a].Sublist roster.entries.reverse := hpair.reverse
  have hlisted : [b, a].Sublist (roster.metIn roster.entries.reverse).listing :=
    Sorting.sublist_mergeSort Entry.createdAt hmet (by simpa using hle)
  have hperm : (roster.metIn roster.entries.reverse).listing.Perm roster.entries :=
    listing_metIn_perm roster.entries.reverse_perm
  exact Sorting.not_pair_sublist (hperm.nodup_iff.mpr hnodup) hlisted

/-- One session is listed before another one, in whatever order they are met, if and only if
it was entered in an earlier second. -/
theorem listed_before_iff (hnodup : roster.entries.Nodup)
    (hpair : [a, b].Sublist roster.entries) :
    (∀ visited, visited.Perm roster.entries → [a, b].Sublist (roster.metIn visited).listing) ↔
      a.createdAt < b.createdAt := by
  constructor
  · intro hlisted
    by_contra hle
    -- Meeting the entries backwards is an order, too.
    exact not_pair_sublist_listing_reverse hnodup hpair (Nat.le_of_not_lt hle)
      (hlisted _ roster.entries.reverse_perm)
  · intro hlt visited hvisited
    exact pair_sublist_listing hvisited hpair hlt

/-- The sessions are listed as they stand on the roster, in whatever order they are met, if
and only if each was entered in a later second than those before it. -/
theorem listing_eq_iff (hnodup : roster.entries.Nodup) :
    (∀ visited, visited.Perm roster.entries → (roster.metIn visited).listing = roster.entries) ↔
      roster.entries.Pairwise (·.createdAt < ·.createdAt) := by
  constructor
  · intro hlisting
    refine List.pairwise_iff_forall_sublist.mpr fun hpair => ?_
    refine (listed_before_iff hnodup hpair).mp ?_
    intro visited hvisited
    rw [hlisting visited hvisited]
    exact hpair
  · intro hlt visited hvisited
    have hperm := listing_metIn_perm hvisited
    -- Both are sorted, and no two entries are of one second.
    have hseconds : (roster.entries.map Entry.createdAt).Nodup :=
      List.pairwise_map.mpr (hlt.imp Nat.ne_of_lt)
    refine hperm.eq_of_pairwise ?_ (pairwise_listing _) (hlt.imp Nat.le_of_lt)
    intro a b ha hb hab hba
    have hsame : a.createdAt = b.createdAt := Nat.le_antisymm hab hba
    exact List.inj_on_of_nodup_map hseconds (hperm.mem_iff.mp ha) hb hsame

end Roster

/-! ## The order of the reservations -/

namespace Floor

variable {floor floor' : Floor} {limit : Nat} {move : FloorMove} {moves : List FloorMove}

theorem reservations_of_change (hchange : Change floor move floor')
    {past : List (String × Spec × Nat)}
    (h : (floor.roster.entries.map Entry.reservation).Sublist past) :
    (floor'.roster.entries.map Entry.reservation).Sublist (past ++ move.reservation?.toList) := by
  have hkept : (floor.roster.entries.map Entry.reservation).Sublist
      (past ++ move.reservation?.toList) := h.trans (List.sublist_append_left ..)
  cases hchange with
  | reserves =>
    rw [List.map_append]
    exact h.append (List.Sublist.refl _)
  | attaches =>
    rw [Roster.map_entries_setStage _ _ _ fun _ => rfl]
    exact hkept
  | drops => exact (List.filter_sublist.map _).trans hkept
  | _ => exact hkept

/-- The live sessions stand in the order in which they were asked for. -/
theorem reservations_of_play? (hplay : (fresh limit).play? moves = some floor) :
    (floor.roster.entries.map Entry.reservation).Sublist
      (moves.filterMap FloorMove.reservation?) := by
  refine play?_induction (P := fun moves floor =>
    (floor.roster.entries.map Entry.reservation).Sublist
      (moves.filterMap FloorMove.reservation?)) (List.Sublist.refl _) ?_ hplay
  intro past last move next _ hchange ih
  have hmade : [move].filterMap FloorMove.reservation? = move.reservation?.toList := by
    cases hreservation : move.reservation? <;> simp [hreservation]
  rw [List.filterMap_append, hmade]
  exact reservations_of_change hchange ih

/-- The names of the live sessions stand in the order in which names were given, each to
one session. -/
theorem ids_of_play? (hplay : (fresh limit).play? moves = some floor) :
    floor.roster.ids.Sublist floor.issued.reverse ∧ floor.issued.Nodup := by
  refine play?_induction (P := fun _ floor =>
    floor.roster.ids.Sublist floor.issued.reverse ∧ floor.issued.Nodup) ?_ ?_ hplay
  · exact ⟨List.Sublist.refl _, List.nodup_nil⟩
  · intro past last move next _ hchange ih
    cases hchange with
    | reserves _ hfresh _ =>
      refine ⟨?_, List.nodup_cons.mpr ⟨hfresh, ih.2⟩⟩
      rw [Roster.ids, List.map_append, List.reverse_cons]
      exact ih.1.append (List.Sublist.refl _)
    | attaches =>
      rw [Roster.ids_setStage]
      exact ih
    | drops => exact ⟨(List.filter_sublist.map _).trans ih.1, ih.2⟩
    | _ => exact ih

theorem nodup_entries (hplay : (fresh limit).play? moves = some floor) :
    floor.roster.entries.Nodup := by
  obtain ⟨hids, hissued⟩ := ids_of_play? hplay
  exact ((List.nodup_reverse.mpr hissued).sublist hids).of_map

/-- With a clock that does not go backwards, no entry is younger than those after it. -/
theorem pairwise_createdAt (hplay : (fresh limit).play? moves = some floor)
    (hclock : (moves.filterMap FloorMove.reading?).Pairwise (· ≤ ·)) :
    floor.roster.entries.Pairwise (·.createdAt ≤ ·.createdAt) := by
  have hreadings : moves.filterMap FloorMove.reading? =
      (moves.filterMap FloorMove.reservation?).map (·.2.2) := by
    rw [List.map_filterMap]
    rfl
  rw [hreadings] at hclock
  have hsorted := hclock.sublist ((reservations_of_play? hplay).map (·.2.2))
  rw [List.map_map] at hsorted
  exact List.pairwise_map.mp hsorted

end Floor

/-! ## The answer to a client -/

/-- Who asks for the sessions, and may, gets the listing. -/
theorem respond_sessions {hub : Hub} {request : Http.Request} (id : String)
    (hroute : Route.ofPath? request.path = some .sessions)
    (hkey : hub.refusal? request = none) (hmethod : request.method = "GET") :
    (hub.respond request id).1 =
      .response (.json 200 [("count", jsonNat hub.roster.count),
        ("sessions", Json.printList (hub.roster.listing.map Entry.print))]) := by
  simp [respond, hroute, answerOn, Route.isGuarded, hkey, hmethod, Route.methods, serve,
    sessionsAnswer, printListing, finish]

namespace Floor

/-- When the clock does not go backwards, whatever handlers do: the live sessions stand on the
roster in the order of their reservations, each with what it was reserved with. In whatever
order they are met, a listing has each of them once, by the seconds in which they were
entered, and so has the answer to whoever asks for the sessions. That every such order
lists one session before another one that was reserved later holds if and only if they were
entered in different seconds; that it lists all as they were reserved, if and only if no two
were entered in the same second. -/
theorem lists_in_order_iff {limit : Nat} {moves : List FloorMove} {floor : Floor}
    (hplay : (fresh limit).play? moves = some floor)
    (hclock : (moves.filterMap FloorMove.reading?).Pairwise (· ≤ ·)) :
    (floor.roster.entries.map Entry.reservation).Sublist
        (moves.filterMap FloorMove.reservation?) ∧
      floor.roster.ids.Sublist floor.issued.reverse ∧ floor.issued.Nodup ∧
      (∀ visited, visited.Perm floor.roster.entries →
        (floor.roster.metIn visited).listing.Perm floor.roster.entries ∧
        (floor.roster.metIn visited).listing.Pairwise (·.createdAt ≤ ·.createdAt) ∧
        ∀ (hub : Hub) request id, hub.roster = floor.roster.metIn visited →
          Route.ofPath? request.path = some .sessions → hub.refusal? request = none →
          request.method = "GET" →
          (hub.respond request id).1 =
            .response (.json 200 [("count", jsonNat floor.roster.count),
              ("sessions", Json.printList
                ((floor.roster.metIn visited).listing.map Entry.print))])) ∧
      (∀ a b, [a, b].Sublist floor.roster.entries →
        ((∀ visited, visited.Perm floor.roster.entries →
          [a, b].Sublist (floor.roster.metIn visited).listing) ↔ a.createdAt ≠ b.createdAt)) ∧
      ((∀ visited, visited.Perm floor.roster.entries →
        (floor.roster.metIn visited).listing = floor.roster.entries) ↔
          (floor.roster.entries.map (·.createdAt)).Nodup) := by
  have hnodup := nodup_entries hplay
  have hsorted := pairwise_createdAt hplay hclock
  obtain ⟨hids, hissued⟩ := ids_of_play? hplay
  refine ⟨reservations_of_play? hplay, hids, hissued, ?_, ?_, ?_⟩
  · intro visited hvisited
    refine ⟨Roster.listing_metIn_perm hvisited, Roster.pairwise_listing _, ?_⟩
    intro hub request id hroster hroute hkey hmethod
    have hcount : hub.roster.count = floor.roster.count := by
      rw [hroster]
      exact hvisited.length_eq
    rw [respond_sessions id hroute hkey hmethod, hcount, hroster]
  · intro a b hpair
    have hle : a.createdAt ≤ b.createdAt := List.pairwise_iff_forall_sublist.mp hsorted hpair
    rw [Roster.listed_before_iff hnodup hpair]
    omega
  · rw [Roster.listing_eq_iff hnodup, List.Nodup, List.pairwise_map]
    constructor
    · intro hlt
      exact hlt.imp Nat.ne_of_lt
    · intro hne
      exact hsorted.imp₂ (fun _ _ => Nat.lt_of_le_of_ne) hne

/-- Two sessions of one second and one of the next: when the first of them is gone, the
others are listed as they were reserved, in whatever order they are met. -/
theorem survivors_are_listed_in_order :
    ∃ floor, (fresh 3).play? [.reserve 0 "a" ⟨"sh", "/", ⟨80, 24⟩⟩ 5,
        .reserve 0 "b" ⟨"sh", "/", ⟨80, 24⟩⟩ 5, .reserve 0 "c" ⟨"sh", "/", ⟨80, 24⟩⟩ 6,
        .drop "a"] = some floor ∧
      floor.roster.ids = ["b", "c"] ∧
      ∀ visited, visited.Perm floor.roster.entries →
        (floor.roster.metIn visited).listing = floor.roster.entries := by
  have hplays : ((fresh 3).play? [.reserve 0 "a" ⟨"sh", "/", ⟨80, 24⟩⟩ 5,
      .reserve 0 "b" ⟨"sh", "/", ⟨80, 24⟩⟩ 5, .reserve 0 "c" ⟨"sh", "/", ⟨80, 24⟩⟩ 6,
      .drop "a"]).map (·.roster.entries.map fun entry => (entry.id, entry.createdAt)) =
        some [("b", 5), ("c", 6)] := by decide +kernel
  obtain ⟨floor, hplay, hentries⟩ := Option.map_eq_some_iff.mp hplays
  obtain ⟨-, -, -, -, -, hordered⟩ := lists_in_order_iff hplay (by decide)
  have hids : floor.roster.ids = ["b", "c"] := by
    simpa [Roster.ids, Function.comp_def] using congrArg (List.map Prod.fst) hentries
  have hseconds : floor.roster.entries.map (·.createdAt) = [5, 6] := by
    simpa [Function.comp_def] using congrArg (List.map Prod.snd) hentries
  refine ⟨floor, hplay, hids, hordered.mpr ?_⟩
  rw [hseconds]
  decide

/-- Of two sessions of one second the younger is listed first when it is met first. -/
theorem younger_is_listed_first :
    ∃ floor, (fresh 2).play? [.reserve 0 "a" ⟨"sh", "/", ⟨80, 24⟩⟩ 5,
        .reserve 0 "b" ⟨"sh", "/", ⟨80, 24⟩⟩ 5] = some floor ∧
      floor.roster.ids = ["a", "b"] ∧
      ∃ visited, visited.Perm floor.roster.entries ∧
        (floor.roster.metIn visited).listing.map (·.id) = ["b", "a"] := by
  have hplay : (fresh 2).play? [.reserve 0 "a" ⟨"sh", "/", ⟨80, 24⟩⟩ 5,
      .reserve 0 "b" ⟨"sh", "/", ⟨80, 24⟩⟩ 5] = some
        { roster :=
            { limit := 2
              entries :=
                [⟨"a", ⟨"sh", "/", ⟨80, 24⟩⟩, 5, none⟩, ⟨"b", ⟨"sh", "/", ⟨80, 24⟩⟩, 5, none⟩]
              stopped := []
              isShutDown := false }
          limits := [2]
          slots := [⟨"a", ⟨"sh", "/", ⟨80, 24⟩⟩, none⟩, ⟨"b", ⟨"sh", "/", ⟨80, 24⟩⟩, none⟩]
          issued := ["b", "a"]
          cancelled := [] } := by rfl
  refine ⟨_, hplay, rfl, _, List.reverse_perm _, ?_⟩
  rw [Roster.listing, Roster.oldestFirst, List.mergeSort_of_pairwise]
  · rfl
  · decide

end Floor

end RemoteShell.Hub

import RemoteShell.Proofs.Hub.Floor

/-!
# What the roster accounts for

Whatever the handlers of a hub do, in any order and through any handles, the roster has an
entry for each slot that is held, and no other entries (`Floor.Accounts`). So it is full if
and only if as many slots are held as the limit says.
-/

namespace RemoteShell.Hub

/-- What a session was entered with. -/
def Entry.key (entry : Entry) : String × Spec := (entry.id, entry.spec)

/-- What a slot was reserved with. -/
def Slot.key (slot : Slot) : String × Spec := (slot.id, slot.spec)

/-- The sessions on a roster, as they were entered. -/
def Roster.keys (roster : Roster) : List (String × Spec) := roster.entries.map Entry.key

theorem Roster.map_fst_keys (roster : Roster) : roster.keys.map Prod.fst = roster.ids := by
  rw [Roster.keys, List.map_map]
  rfl

@[simp] theorem Roster.keys_setStage (roster : Roster) (id : String) (stage : Lifecycle) :
    (roster.setStage id stage).keys = roster.keys :=
  roster.map_entries_setStage id stage fun _ => rfl

theorem Roster.keys_release (roster : Roster) (id : String) :
    (roster.release id).keys = roster.keys.filter (·.1 ≠ id) := by
  rw [Roster.keys, Roster.keys, Roster.release, List.filter_map]
  rfl

namespace Floor

variable {floor floor' : Floor} {limit : Nat} {id : String} {move : FloorMove}
  {moves : List FloorMove}

/-! ## Held slots -/

/-- The slots that are held, as they were reserved. -/
def held (floor : Floor) : List (String × Spec) := floor.slots.map Slot.key

theorem map_fst_held (floor : Floor) : floor.held.map Prod.fst = floor.slots.map (·.id) := by
  rw [held, List.map_map]
  rfl

@[simp] theorem held_cancel (floor : Floor) (token : Token) :
    (floor.cancel token).held = floor.held := by
  simp only [held, cancel, List.map_map]
  congr 1
  funext slot
  simp only [Function.comp, Slot.key]
  split <;> rfl

@[simp] theorem held_setSession (floor : Floor) (id : String) (session : Session) :
    (floor.setSession id session).held = floor.held := by
  simp only [held, setSession, List.map_map]
  congr 1
  funext slot
  simp only [Function.comp, Slot.key]
  split <;> rfl

theorem held_drop (floor : Floor) (id : String) :
    (floor.drop id).held = floor.held.filter (·.1 ≠ id) := by
  rw [held, held, drop, List.filter_map]
  rfl

/-! ## Accounts -/

/-- The roster has an entry for each slot that is held. All handles go by the limit. -/
structure Accounts (limit : Nat) (floor : Floor) : Prop where
  handles : ∀ copy ∈ floor.limits, copy = limit
  keys : floor.roster.keys = floor.held
  nodup : (floor.held.map Prod.fst).Nodup
  issued : ∀ key ∈ floor.held, key.1 ∈ floor.issued
  room : floor.held.length ≤ limit

theorem accounts_fresh (limit : Nat) : (fresh limit).Accounts limit := by
  constructor <;> simp [fresh, Roster.ofLimit, Roster.keys, held]

namespace Accounts

theorem count_eq (h : floor.Accounts limit) : floor.roster.count = floor.held.length := by
  rw [← h.keys, Roster.keys, List.length_map]
  rfl

/-- What leaves the handles, the slots and the entries alone keeps the accounts. -/
theorem congr (h : floor.Accounts limit) (hlimits : floor'.limits = floor.limits)
    (hkeys : floor'.roster.keys = floor.roster.keys) (hheld : floor'.held = floor.held)
    (hissued : floor'.issued = floor.issued) : floor'.Accounts limit where
  handles := hlimits ▸ h.handles
  keys := by rw [hkeys, hheld, h.keys]
  nodup := hheld ▸ h.nodup
  issued := by
    rw [hheld, hissued]
    exact h.issued
  room := hheld ▸ h.room

/-- A new entry comes with a new slot. -/
theorem reserve {now : Nat} {spec : Spec} {copy : Nat} (h : floor.Accounts limit)
    (hcopy : copy ∈ floor.limits) (hfresh : id ∉ floor.issued)
    (hroom : floor.roster.count < copy) :
    Accounts limit
      { floor with
        roster := { floor.roster with
          limit := copy
          entries := floor.roster.entries ++ [⟨id, spec, now, none⟩] }
        slots := floor.slots ++ [⟨id, spec, none⟩]
        issued := id :: floor.issued } where
  handles := h.handles
  keys := by
    have hkeys := h.keys
    simp only [Roster.keys, held] at hkeys
    simp [Roster.keys, held, hkeys, Entry.key, Slot.key]
  nodup := by
    -- A fresh name is none of those that are held, since these were issued.
    have hnew : id ∉ floor.held.map Prod.fst := by
      intro hmem
      obtain ⟨key, hkey, rfl⟩ := List.mem_map.mp hmem
      exact hfresh (h.issued key hkey)
    simp only [held, List.map_append, List.map_cons, List.map_nil]
    refine List.nodup_append.mpr ⟨h.nodup, by simp, ?_⟩
    rintro old hold newest hnewest rfl
    rw [List.mem_singleton.mp hnewest] at hold
    exact hnew hold
  issued := by
    intro key hkey
    simp only [held, List.map_append, List.mem_append, List.map_cons, List.map_nil,
      List.mem_singleton] at hkey
    obtain hold | rfl := hkey
    · exact List.mem_cons_of_mem _ (h.issued key hold)
    · exact List.mem_cons_self
  room := by
    have hlimit : copy = limit := h.handles copy hcopy
    have hcount := h.count_eq
    have hlength : floor.held.length = floor.slots.length := List.length_map _
    simp only [held, List.length_map, List.length_append, List.length_singleton]
    omega

/-- An entry goes with its slot. -/
theorem drop (h : floor.Accounts limit) (id : String) : (floor.drop id).Accounts limit where
  handles := h.handles
  keys := by
    have hroster : (floor.drop id).roster = floor.roster.release id := rfl
    rw [hroster, Roster.keys_release, h.keys, held_drop]
  nodup := by
    rw [held_drop]
    exact h.nodup.sublist (List.filter_sublist.map _)
  issued := by
    intro key hkey
    rw [held_drop] at hkey
    exact h.issued key (List.mem_filter.mp hkey).1
  room := by
    rw [held_drop]
    exact Nat.le_trans (List.length_filter_le ..) h.room

end Accounts

theorem accounts_of_change (hchange : Change floor move floor') (h : floor.Accounts limit) :
    floor'.Accounts limit := by
  cases hchange with
  | clones hhandle =>
    refine { h with handles := ?_ }
    intro copy hcopy
    obtain hold | hnew := List.mem_append.mp hcopy
    · exact h.handles copy hold
    · rw [List.mem_singleton.mp hnew]
      exact h.handles _ hhandle
  | reserves hhandle hfresh hroom => exact h.reserve hhandle hfresh hroom
  | refuses | killsNobody | setUpFails => exact h
  | kills => exact h.congr rfl rfl (held_cancel ..) rfl
  | setsUp | acts => exact h.congr rfl rfl (held_setSession ..) rfl
  | attaches => exact h.congr rfl (Roster.keys_setStage ..) rfl rfl
  | drops => exact h.drop _
  | shutsDown => exact h.congr rfl rfl (held_cancel ..) rfl

theorem accounts_of_play? (hplay : (fresh limit).play? moves = some floor) :
    floor.Accounts limit :=
  play?_induction (P := fun _ floor => floor.Accounts limit) (accounts_fresh limit)
    (fun _ _ _ _ _ hchange h => accounts_of_change hchange h) hplay

/-- A slot comes by a reservation. -/
theorem mem_held_of_change (hchange : Change floor move floor') {key : String × Spec}
    (hkey : key ∈ floor'.held) :
    key ∈ floor.held ∨ ∃ handle now, move = .reserve handle key.1 key.2 now := by
  cases hchange with
  | @reserves handle copy now id spec =>
    simp only [held, List.map_append, List.mem_append, List.map_cons, List.map_nil,
      List.mem_singleton] at hkey
    obtain hold | rfl := hkey
    · exact .inl hold
    · exact .inr ⟨handle, now, rfl⟩
  | drops =>
    rw [held_drop] at hkey
    exact .inl (List.mem_filter.mp hkey).1
  | kills | shutsDown => exact .inl (held_cancel .. ▸ hkey)
  | setsUp | acts => exact .inl (held_setSession .. ▸ hkey)
  | _ => exact .inl hkey

/-- A slot that is held has been reserved, for what it is held for. -/
theorem exists_reserve_of_mem_held (hplay : (fresh limit).play? moves = some floor)
    {key : String × Spec} (hkey : key ∈ floor.held) :
    ∃ handle now, .reserve handle key.1 key.2 now ∈ moves := by
  revert key
  refine play?_induction (P := fun moves floor => ∀ {key : String × Spec}, key ∈ floor.held →
    ∃ handle now, .reserve handle key.1 key.2 now ∈ moves) ?_ ?_ hplay
  · intro key hkey
    cases hkey
  · intro past last move next _ hchange ih key hkey
    obtain hold | ⟨handle, now, rfl⟩ := mem_held_of_change hchange hkey
    · obtain ⟨handle, now, hmem⟩ := ih hold
      exact ⟨handle, now, List.mem_append_left _ hmem⟩
    · exact ⟨handle, now, List.mem_append_right _ List.mem_cons_self⟩

/-! ## What moves do to the entries -/

/-- Of entries with different names one goes when its name is filtered out. -/
theorem filter_ne_of_nodup {before after : List Entry} {entry : Entry}
    (hnodup : ((before ++ entry :: after).map Entry.id).Nodup) :
    (before ++ entry :: after).filter (·.id ≠ entry.id) = before ++ after := by
  rw [List.map_append, List.map_cons, List.nodup_append, List.nodup_cons] at hnodup
  obtain ⟨-, ⟨hafter, -⟩, hbefore⟩ := hnodup
  have hkeepBefore : before.filter (·.id ≠ entry.id) = before := by
    refine List.filter_eq_self.mpr fun other hother => ?_
    have hne := hbefore other.id (List.mem_map_of_mem hother) entry.id List.mem_cons_self
    exact decide_eq_true hne
  have hkeepAfter : after.filter (·.id ≠ entry.id) = after := by
    refine List.filter_eq_self.mpr fun other hother => decide_eq_true ?_
    intro heq
    exact hafter (heq ▸ List.mem_map_of_mem hother)
  rw [List.filter_append, List.filter_cons_of_neg (by simp), hkeepBefore, hkeepAfter]

/-- The entry of a slot that is dropped goes, and no other entry. -/
theorem Accounts.entries_drop (h : floor.Accounts limit) {slot : Slot}
    (hslot : floor.slot? id = some slot) :
    ∃ before entry after, entry.key = slot.key ∧ floor.roster.entries = before ++ entry :: after ∧
      (floor.drop id).roster.entries = before ++ after := by
  have hid := id_of_slot? hslot
  have hkey : slot.key ∈ floor.roster.keys := by
    rw [h.keys]
    exact List.mem_map_of_mem (mem_of_slot? hslot)
  obtain ⟨entry, hentry, hentryKey⟩ := List.mem_map.mp hkey
  obtain ⟨before, after, hentries⟩ := List.append_of_mem hentry
  have hentryId : entry.id = id := (congrArg Prod.fst hentryKey).trans hid
  have hnodup : ((before ++ entry :: after).map Entry.id).Nodup := by
    have hids : floor.roster.ids.Nodup := by
      rw [← Roster.map_fst_keys, h.keys]
      exact h.nodup
    rw [← hentries]
    exact hids
  have hdropped : (floor.drop id).roster.entries = floor.roster.entries.filter (·.id ≠ id) := rfl
  refine ⟨before, entry, after, hentryKey, hentries, ?_⟩
  rw [hdropped, hentries, ← hentryId]
  exact filter_ne_of_nodup hnodup

/-- A listing has one item for each slot that is held. -/
theorem Accounts.listing_perm (h : floor.Accounts limit) :
    (floor.roster.listing.map Entry.key).Perm floor.held := by
  rw [← h.keys, Roster.listing, Roster.oldestFirst]
  exact (List.mergeSort_perm ..).map _

/-- Whatever handlers do, in any order and through any handles to a roster: the entries are
the slots that are held, in the order of their reservations, and all have different names;
there are never more than the limit says; and a listing has just one item for each of them,
with what it was reserved with. A reservation is refused if and only if as many slots are
held as the limit says, and changes nothing then; any other one adds an entry. Of all other
moves only the drop of a slot, which is always possible, changes what is entered: that
entry goes, and the others stay in their places. -/
theorem slots_are_accounted_for (hplay : (fresh limit).play? moves = some floor) :
    floor.roster.ids = floor.slots.map (·.id) ∧ floor.roster.ids.Nodup ∧
      floor.roster.count = floor.slots.length ∧ floor.roster.count ≤ limit ∧
      (floor.roster.listing.map Entry.key).Perm (floor.slots.map Slot.key) ∧
      (∀ slot ∈ floor.slots, ∃ handle now, .reserve handle slot.id slot.spec now ∈ moves) ∧
      (∀ copy ∈ floor.limits, ∀ id spec now,
        if floor.slots.length = limit then floor.reserve copy id spec now = .error ⟨limit⟩
        else ∃ floor', floor.reserve copy id spec now = .ok floor' ∧
          floor'.roster.entries = floor.roster.entries ++ [⟨id, spec, now, none⟩]) ∧
      (∀ slot ∈ floor.slots, (floor.make? (.drop slot.id)).isSome) ∧
      ∀ move floor', floor.make? move = some floor' →
        match move with
        | .reserve _ id spec now =>
          if floor.slots.length = limit then floor' = floor
          else floor'.roster.entries = floor.roster.entries ++ [⟨id, spec, now, none⟩]
        | .drop id => ∃ before entry after, entry.id = id ∧
            floor.roster.entries = before ++ entry :: after ∧
            floor'.roster.entries = before ++ after
        | _ => floor'.roster.keys = floor.roster.keys := by
  have h := accounts_of_play? hplay
  have hlength : floor.held.length = floor.slots.length := List.length_map _
  have hcount := h.count_eq
  have hroom := h.room
  have hids : floor.roster.ids = floor.slots.map (·.id) := by
    rw [← Roster.map_fst_keys, h.keys, map_fst_held]
  refine ⟨hids, ?_, by omega, by omega, h.listing_perm, ?_, ?_, ?_, ?_⟩
  · rw [hids, ← map_fst_held]
    exact h.nodup
  · intro slot hslot
    exact exists_reserve_of_mem_held hplay (List.mem_map_of_mem (f := Slot.key) hslot)
  · intro copy hcopy id spec now
    rw [reserve_eq, h.handles copy hcopy]
    by_cases hfull : floor.slots.length = limit
    · rw [if_pos hfull, if_pos (by omega)]
    · rw [if_neg hfull, if_neg (by omega)]
      exact ⟨_, rfl, rfl⟩
  · intro slot hslot
    have hfound : (floor.slot? slot.id).isSome := List.find?_isSome.mpr ⟨slot, hslot, by simp⟩
    rw [make?, Option.isSome_map]
    exact hfound
  · intro move floor' hmake
    have hchange := change_of_make? hmake
    cases hchange with
    | reserves hhandle hfresh hspace =>
      have hlimit := h.handles _ hhandle
      have hfree : floor.slots.length ≠ limit := by omega
      simp only [if_neg hfree]
    | refuses hhandle hfull =>
      have hlimit := h.handles _ hhandle
      have hfull : floor.slots.length = limit := by omega
      simp only [if_pos hfull]
    | drops hslot =>
      obtain ⟨before, entry, after, hkey, hentries, hdropped⟩ := h.entries_drop hslot
      have hid : entry.id = _ := (congrArg Prod.fst hkey).trans (id_of_slot? hslot)
      exact ⟨before, entry, after, hid, hentries, hdropped⟩
    | attaches => exact Roster.keys_setStage ..
    | _ => rfl

/-- With two slots held, one of them through a clone and one of them killed, a third is
refused by a hub that has room for two. -/
theorem third_reservation_is_refused :
    ∃ floor, (fresh 2).play? [.reserve 0 "a" ⟨"sh", "/", ⟨80, 24⟩⟩ 1, .clone 0,
        .reserve 1 "b" ⟨"sh", "/tmp", ⟨80, 24⟩⟩ 1, .kill "a"] = some floor ∧
      floor.slots.map (·.id) = ["a", "b"] ∧ floor.roster.ids = floor.slots.map (·.id) ∧
      floor.roster.count = floor.slots.length ∧
      floor.reserve 2 "c" ⟨"sh", "/", ⟨80, 24⟩⟩ 1 = .error ⟨2⟩ := by
  have hplays : ∀ floor ∈ (fresh 2).play? [.reserve 0 "a" ⟨"sh", "/", ⟨80, 24⟩⟩ 1, .clone 0,
      .reserve 1 "b" ⟨"sh", "/tmp", ⟨80, 24⟩⟩ 1, .kill "a"],
        floor.slots.map (·.id) = ["a", "b"] ∧ 2 ∈ floor.limits := by decide +kernel
  have hsome : ((fresh 2).play? [.reserve 0 "a" ⟨"sh", "/", ⟨80, 24⟩⟩ 1, .clone 0,
      .reserve 1 "b" ⟨"sh", "/tmp", ⟨80, 24⟩⟩ 1, .kill "a"]).isSome := by decide +kernel
  obtain ⟨floor, hplay⟩ := Option.isSome_iff_exists.mp hsome
  obtain ⟨hheld, hhandle⟩ := hplays floor hplay
  obtain ⟨hids, -, hcount, -, -, -, hreserve, -⟩ := slots_are_accounted_for hplay
  have hrefused := hreserve 2 hhandle "c" ⟨"sh", "/", ⟨80, 24⟩⟩ 1
  have hlength : floor.slots.length = 2 := by
    have hlengths := congrArg List.length hheld
    rwa [List.length_map] at hlengths
  rw [if_pos hlength] at hrefused
  exact ⟨floor, hplay, hheld, hids, hcount, hrefused⟩

end Floor

end RemoteShell.Hub

import NetworkSimulation.Stack.Pdu

/-!
The table of a switch: a list of entries, each with the addresses seen on one interface. Interfaces
are numbered below the number of links connected, which is how the receiver threads number them, and
the `-1` of `get_table_interface_number` is `none`.

Learning an address that is not found makes it, and nothing else, found on its interface
(`getTableInterfaceNumber_learn`); an address in the table is never moved.
-/

set_option autoImplicit false
set_option relaxedAutoImplicit false

namespace NetworkSimulation.Switching

open Stack

structure TableEntry (interfaces : ℕ) where
  addressList : List Mac
  interfaceNumber : Fin interfaces

abbrev SwitchTable (interfaces : ℕ) := List (TableEntry interfaces)

variable {interfaces : ℕ}

/-- The two nested loops of `get_table_interface_number`: the interface of the first entry that
lists the address. A broadcast address is not looked up. -/
def getTableInterfaceNumber (switchTable : SwitchTable interfaces) (macAddr : Mac) :
    Option (Fin interfaces) :=
  if switchTable ≠ [] ∧ isBroadcast macAddr = false then
    switchTable.findSome? fun entry ↦
      if entry.addressList.any (compareMacs macAddr) then some entry.interfaceNumber else none
  else none

/-- `add_table_entry`: the address goes to the first entry of the interface, or to a new one. -/
def addTableEntry (sourceMac : Mac) (ifId : Fin interfaces) :
    SwitchTable interfaces → SwitchTable interfaces
  | [] => [⟨[sourceMac], ifId⟩]
  | entry :: rest =>
    if entry.interfaceNumber = ifId then
      { entry with addressList := entry.addressList ++ [sourceMac] } :: rest
    else entry :: addTableEntry sourceMac ifId rest

/-- What `process_frame` does to the table on a frame from `sourceMac` received on `inIf`. -/
def learn (switchTable : SwitchTable interfaces) (sourceMac : Mac) (inIf : Fin interfaces) :
    SwitchTable interfaces :=
  match getTableInterfaceNumber switchTable sourceMac with
  | none => addTableEntry sourceMac inIf switchTable
  | some _ => switchTable

/-- The table lists the address for the interface. -/
def Lists (switchTable : SwitchTable interfaces) (mac : Mac) (ifId : Fin interfaces) : Prop :=
  ∃ entry ∈ switchTable, mac ∈ entry.addressList ∧ entry.interfaceNumber = ifId

/-- All addresses of the table, entry after entry. -/
def addresses (switchTable : SwitchTable interfaces) : List Mac :=
  switchTable.flatMap TableEntry.addressList

theorem mem_addresses {switchTable : SwitchTable interfaces} {mac : Mac} :
    mac ∈ addresses switchTable ↔ ∃ ifId, Lists switchTable mac ifId := by
  simp [addresses, Lists]

/-! ### Lookup -/

theorem getTableInterfaceNumber_eq_findSome (switchTable : SwitchTable interfaces) {macAddr : Mac}
    (h : isBroadcast macAddr = false) :
    getTableInterfaceNumber switchTable macAddr =
      switchTable.findSome? fun entry ↦
        if entry.addressList.any (compareMacs macAddr) then some entry.interfaceNumber
        else none := by
  unfold getTableInterfaceNumber
  cases switchTable <;> simp [h]

/-- A lookup that succeeds read an entry of the table. -/
theorem lists_of_getTableInterfaceNumber {switchTable : SwitchTable interfaces} {macAddr : Mac}
    {ifId : Fin interfaces} (h : getTableInterfaceNumber switchTable macAddr = some ifId) :
    ∃ mac, Lists switchTable mac ifId ∧ compareMacs macAddr mac = true := by
  unfold getTableInterfaceNumber at h
  split_ifs at h
  obtain ⟨entry, hentry, hfound⟩ := List.exists_of_findSome?_eq_some h
  split_ifs at hfound with hany
  obtain ⟨mac, hmac, hcompare⟩ := List.any_eq_true.mp hany
  exact ⟨mac, ⟨entry, hentry, hmac, Option.some.inj hfound⟩, hcompare⟩

/-- A lookup that fails found the address in no entry. -/
theorem getTableInterfaceNumber_eq_none_iff {switchTable : SwitchTable interfaces} {macAddr : Mac}
    (h : isBroadcast macAddr = false) :
    getTableInterfaceNumber switchTable macAddr = none ↔
      ∀ mac ∈ addresses switchTable, compareMacs macAddr mac = false := by
  rw [getTableInterfaceNumber_eq_findSome switchTable h, List.findSome?_eq_none_iff]
  simp only [ite_eq_right_iff, reduceCtorEq, imp_false, List.any_eq_true, not_exists, not_and,
    Bool.not_eq_true, addresses, List.mem_flatMap, forall_exists_index, and_imp]
  exact ⟨fun hnone mac entry hentry hmac ↦ hnone entry hentry mac hmac,
    fun hnone entry hentry mac hmac ↦ hnone mac entry hentry hmac⟩

/-! ### Adding an address -/

theorem lists_addTableEntry {switchTable : SwitchTable interfaces} {sourceMac mac : Mac}
    {inIf ifId : Fin interfaces} :
    Lists (addTableEntry sourceMac inIf switchTable) mac ifId ↔
      Lists switchTable mac ifId ∨ mac = sourceMac ∧ ifId = inIf := by
  induction switchTable with
  | nil => simp [addTableEntry, Lists, eq_comm]
  | cons entry rest ih =>
    have hcons : ∀ (first : TableEntry interfaces) (table : SwitchTable interfaces),
        Lists (first :: table) mac ifId ↔
          (mac ∈ first.addressList ∧ first.interfaceNumber = ifId) ∨ Lists table mac ifId := by
      intro first table
      simp [Lists]
    unfold addTableEntry
    split_ifs with hsame
    · rw [hcons, hcons]
      simp only [List.mem_append, List.mem_singleton, hsame]
      constructor
      · rintro (⟨hmac | hmac, hif⟩ | hrest)
        · exact Or.inl (Or.inl ⟨hmac, hif⟩)
        · exact Or.inr ⟨hmac, hif.symm⟩
        · exact Or.inl (Or.inr hrest)
      · rintro ((⟨hmac, hif⟩ | hrest) | ⟨hmac, hif⟩)
        · exact Or.inl ⟨Or.inl hmac, hif⟩
        · exact Or.inr hrest
        · exact Or.inl ⟨Or.inr hmac, hif.symm⟩
    · rw [hcons, hcons, ih, or_assoc]

/-- The address is added once to the addresses there are. -/
theorem addresses_addTableEntry_perm (sourceMac : Mac) (inIf : Fin interfaces)
    (switchTable : SwitchTable interfaces) :
    (addresses (addTableEntry sourceMac inIf switchTable)).Perm
      (sourceMac :: addresses switchTable) := by
  induction switchTable with
  | nil => exact List.Perm.refl _
  | cons entry rest ih =>
    unfold addTableEntry
    split_ifs
    · change (entry.addressList ++ [sourceMac] ++ addresses rest).Perm
        (sourceMac :: (entry.addressList ++ addresses rest))
      rw [List.append_assoc]
      exact List.perm_middle
    · change (entry.addressList ++ addresses (addTableEntry sourceMac inIf rest)).Perm
        (sourceMac :: (entry.addressList ++ addresses rest))
      exact (ih.append_left entry.addressList).trans List.perm_middle

/-- Learning lists the address for the interface if it was not found, and changes nothing else. -/
theorem lists_learn {switchTable : SwitchTable interfaces} {sourceMac mac : Mac}
    {inIf ifId : Fin interfaces} :
    Lists (learn switchTable sourceMac inIf) mac ifId ↔
      Lists switchTable mac ifId ∨
        getTableInterfaceNumber switchTable sourceMac = none ∧ mac = sourceMac ∧ ifId = inIf := by
  unfold learn
  split
  · rename_i hnone
    rw [lists_addTableEntry]
    simp [hnone]
  · rename_i ifId hsome
    simp [hsome]

theorem getTableInterfaceNumber_addTableEntry {switchTable : SwitchTable interfaces}
    {sourceMac mac : Mac} (inIf : Fin interfaces) (hmac : isBroadcast mac = false)
    (hnone : compareMacs mac sourceMac = true → getTableInterfaceNumber switchTable mac = none) :
    getTableInterfaceNumber (addTableEntry sourceMac inIf switchTable) mac =
      (getTableInterfaceNumber switchTable mac).or
        (if compareMacs mac sourceMac then some inIf else none) := by
  simp only [getTableInterfaceNumber_eq_findSome _ hmac] at hnone ⊢
  induction switchTable with
  | nil =>
    rw [addTableEntry, List.findSome?_singleton, List.findSome?_nil, Option.none_or]
    simp only [List.any_cons, List.any_nil, Bool.or_false]
  | cons entry rest ih =>
    have hadded : (entry.addressList ++ [sourceMac]).any (compareMacs mac) =
        (entry.addressList.any (compareMacs mac) || compareMacs mac sourceMac) := by
      rw [List.any_append, List.any_cons, List.any_nil, Bool.or_false]
    by_cases hlisted : entry.addressList.any (compareMacs mac) = true
    · have hfirst (first : TableEntry interfaces) (table : SwitchTable interfaces)
          (hany : first.addressList.any (compareMacs mac) = true) :
          ((first :: table).findSome? fun entry ↦
            if entry.addressList.any (compareMacs mac) then some entry.interfaceNumber else none) =
              some first.interfaceNumber := by
        rw [List.findSome?_cons, if_pos hany]
      rw [hfirst entry rest hlisted, Option.some_or, addTableEntry]
      split_ifs
      · exact hfirst _ rest (by rw [hadded, hlisted, Bool.true_or])
      · exact hfirst entry _ hlisted
    · have hlater (first : TableEntry interfaces) (table : SwitchTable interfaces)
          (hany : ¬ first.addressList.any (compareMacs mac) = true) :
          ((first :: table).findSome? fun entry ↦
            if entry.addressList.any (compareMacs mac) then some entry.interfaceNumber else none) =
              table.findSome? fun entry ↦
                if entry.addressList.any (compareMacs mac) then some entry.interfaceNumber
                else none := by
        rw [List.findSome?_cons, if_neg hany]
      rw [hlater entry rest hlisted] at hnone ⊢
      rw [addTableEntry]
      by_cases hsame : entry.interfaceNumber = inIf
      · rw [if_pos hsame]
        by_cases hcompare : compareMacs mac sourceMac = true
        · rw [hnone hcompare, Option.none_or, if_pos hcompare, List.findSome?_cons,
            if_pos (by rw [hadded, hcompare, Bool.or_true]), hsame]
        · rw [if_neg hcompare, Option.or_none, hlater _ rest]
          rw [hadded, Bool.or_eq_true, not_or]
          exact ⟨hlisted, hcompare⟩
      · rw [if_neg hsame, hlater entry _ hlisted]
        exact ih hnone

/-- A lookup after learning: what was found before, or else the address that is learnt. -/
theorem getTableInterfaceNumber_learn (switchTable : SwitchTable interfaces) (sourceMac mac : Mac)
    (inIf : Fin interfaces) :
    getTableInterfaceNumber (learn switchTable sourceMac inIf) mac =
      (getTableInterfaceNumber switchTable mac).or
        (if isBroadcast mac = false ∧ compareMacs mac sourceMac = true then some inIf
          else none) := by
  by_cases hmac : isBroadcast mac = false
  · simp only [hmac, true_and]
    have hsame (hcompare : compareMacs mac sourceMac = true) :
        getTableInterfaceNumber switchTable mac =
          getTableInterfaceNumber switchTable sourceMac := by
      have hsource : isBroadcast sourceMac = false :=
        (isBroadcast_eq_of_compareMacs hcompare).symm.trans hmac
      have hboth : compareMacs mac = compareMacs sourceMac :=
        funext fun listed ↦ compareMacs_congr hcompare (compareMacs_self listed)
      rw [getTableInterfaceNumber_eq_findSome _ hmac,
        getTableInterfaceNumber_eq_findSome _ hsource, hboth]
    unfold learn
    split
    · rename_i hnone
      exact getTableInterfaceNumber_addTableEntry inIf hmac fun h ↦ (hsame h).trans hnone
    · rename_i ifId hsome
      split_ifs with hcompare
      · rw [hsame hcompare, hsome, Option.some_or]
      · rw [Option.or_none]
  · have hnever (table : SwitchTable interfaces) : getTableInterfaceNumber table mac = none :=
      if_neg fun h ↦ hmac h.2
    rw [hnever, hnever, if_neg fun h ↦ hmac h.1, Option.or_none]

/-- In a family of tables, learning at one of them lists the address there, if it was not found. -/
theorem lists_update_learn {S : Type*} [DecidableEq S] {interfaces : S → ℕ}
    {switchTables : (switch : S) → SwitchTable (interfaces switch)} {switch other : S}
    {sourceMac mac : Mac} {inIf : Fin (interfaces switch)} {ifId : Fin (interfaces other)} :
    Lists (Function.update switchTables switch (learn (switchTables switch) sourceMac inIf) other)
        mac ifId ↔
      Lists (switchTables other) mac ifId ∨
        getTableInterfaceNumber (switchTables switch) sourceMac = none ∧ mac = sourceMac ∧
          (⟨other, ifId⟩ : (s : S) × Fin (interfaces s)) = ⟨switch, inIf⟩ := by
  by_cases hother : other = switch
  · subst hother
    rw [Function.update_self, lists_learn, Sigma.mk.injEq, heq_eq_eq, and_iff_right rfl]
  · rw [Function.update_of_ne hother, Sigma.mk.injEq]
    simp [hother]

/-- Learning lists no address twice. -/
theorem nodup_addresses_learn {switchTable : SwitchTable interfaces} {sourceMac : Mac}
    (inIf : Fin interfaces) (h : (addresses switchTable).Nodup)
    (hfound : sourceMac ∈ addresses switchTable →
      getTableInterfaceNumber switchTable sourceMac ≠ none) :
    (addresses (learn switchTable sourceMac inIf)).Nodup := by
  unfold learn
  split
  · rename_i hnone
    rw [(addresses_addTableEntry_perm _ _ _).nodup_iff, List.nodup_cons]
    exact ⟨fun hlisted ↦ hfound hlisted hnone, h⟩
  · exact h

/-! ### One entry for each interface -/

theorem mem_interfaceNumbers_addTableEntry {switchTable : SwitchTable interfaces} {sourceMac : Mac}
    {inIf ifId : Fin interfaces} :
    ifId ∈ (addTableEntry sourceMac inIf switchTable).map TableEntry.interfaceNumber ↔
      ifId ∈ switchTable.map TableEntry.interfaceNumber ∨ ifId = inIf := by
  induction switchTable with
  | nil => simp [addTableEntry]
  | cons entry rest ih =>
    rw [addTableEntry]
    split_ifs with hsame
    · rw [List.map_cons, List.map_cons, List.mem_cons, hsame]
      tauto
    · rw [List.map_cons, List.map_cons, List.mem_cons, List.mem_cons, ih, or_assoc]

theorem nodup_interfaceNumbers_addTableEntry {switchTable : SwitchTable interfaces}
    (sourceMac : Mac) (inIf : Fin interfaces)
    (h : (switchTable.map TableEntry.interfaceNumber).Nodup) :
    ((addTableEntry sourceMac inIf switchTable).map TableEntry.interfaceNumber).Nodup := by
  induction switchTable with
  | nil => exact List.nodup_singleton _
  | cons entry rest ih =>
    rw [List.map_cons, List.nodup_cons] at h
    rw [addTableEntry]
    split_ifs with hsame
    · exact List.nodup_cons.mpr h
    · rw [List.map_cons, List.nodup_cons, mem_interfaceNumbers_addTableEntry]
      exact ⟨fun hmem ↦ hmem.elim h.1 hsame, ih h.2⟩

theorem nodup_interfaceNumbers_learn {switchTable : SwitchTable interfaces} (sourceMac : Mac)
    (inIf : Fin interfaces) (h : (switchTable.map TableEntry.interfaceNumber).Nodup) :
    ((learn switchTable sourceMac inIf).map TableEntry.interfaceNumber).Nodup := by
  unfold learn
  split
  · exact nodup_interfaceNumbers_addTableEntry sourceMac inIf h
  · exact h

end NetworkSimulation.Switching

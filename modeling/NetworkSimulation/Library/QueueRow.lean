import NetworkSimulation.Library.QueueFamily

/-!
# Queues in a row

Queues that items pass through one after the other. `along` lists the items of a kind that a row of
queues holds, from the way out to the way in. An item that goes from the front of one queue to the
end of the next leaves the list as it is (`along_move`), one that comes in at the end of the row is
appended (`along_add_last`), and one that leaves at the front is the first (`along_remove_first`): a
row of queues is a queue.
-/

set_option autoImplicit false
set_option relaxedAutoImplicit false

namespace NetworkSimulation.Library.QueueFamily

variable {ι α : Type*} (p : α → Bool) (queues : QueueFamily ι α) (row : List ι)

/-- The items of a kind in the queues of a row. -/
def along : List α := (row.flatMap queues).filter p

theorem along_append (front back : List ι) :
    along p queues (front ++ back) = along p queues front ++ along p queues back := by
  rw [along, List.flatMap_append, List.filter_append]
  rfl

theorem along_cons (i : ι) (back : List ι) :
    along p queues (i :: back) = (queues i).filter p ++ along p queues back := by
  rw [along, List.flatMap_cons, List.filter_append]
  rfl

variable {p queues row} {other : QueueFamily ι α}

/-- Only the items of the kind in the queues of the row count. -/
theorem along_congr (h : ∀ i ∈ row, (other i).filter p = (queues i).filter p) :
    along p other row = along p queues row := by
  rw [along, along, List.filter_flatMap, List.filter_flatMap]
  exact List.flatMap_congr h

variable [DecidableEq ι] {i j : ι} {item : α} {front back : List ι}

/-- An item that is not of the kind, or not put in the row, does not count. -/
theorem along_add (h : i ∈ row → p item = false) :
    along p (add queues i item) row = along p queues row := by
  refine along_congr fun k hk ↦ ?_
  by_cases hki : k = i
  · subst hki
    rw [add_self, List.filter_append, List.filter_singleton, h hk, Bool.cond_false, List.append_nil]
  · rw [add_of_ne queues hki]

/-- Taking such an item away does not count either. -/
theorem along_remove (hremove : remove queues i = some (item, other))
    (h : i ∈ row → p item = false) : along p other row = along p queues row := by
  obtain ⟨tail, hfront, rfl⟩ := remove_eq_some.mp hremove
  refine along_congr fun k hk ↦ ?_
  by_cases hki : k = i
  · subst hki
    rw [Function.update_self, hfront, List.filter_cons_of_neg (by rw [h hk]; exact Bool.false_ne_true)]
  · rw [Function.update_of_ne hki]

/-- What is put in the last queue of the row comes last. -/
theorem along_add_last (h : i ∉ front) :
    along p (add queues i item) (front ++ [i]) =
      along p queues (front ++ [i]) ++ [item].filter p := by
  have hfront : along p (add queues i item) front = along p queues front :=
    along_add fun hmem ↦ absurd hmem h
  have hlast (family : QueueFamily ι α) : along p family [i] = (family i).filter p := by
    rw [along, List.flatMap_singleton]
  rw [along_append, along_append, hfront, hlast, hlast, add_self, List.filter_append,
    List.append_assoc]

/-- What is taken from the first queue of the row comes first. -/
theorem along_remove_first (hremove : remove queues i = some (item, other)) (h : i ∉ back) :
    along p queues (i :: back) = [item].filter p ++ along p other (i :: back) := by
  obtain ⟨tail, hfront, rfl⟩ := remove_eq_some.mp hremove
  have hback : along p (Function.update queues i tail) back = along p queues back :=
    along_remove hremove fun hmem ↦ absurd hmem h
  rw [along_cons, along_cons, hback, Function.update_self, hfront, ← List.append_assoc,
    ← List.filter_append]
  rfl

/-- What goes from the front of a queue to the end of the next stays where it is in the row. -/
theorem along_move (hnodup : (front ++ j :: i :: back).Nodup)
    (hremove : remove queues i = some (item, other)) :
    along p (add other j item) (front ++ j :: i :: back) =
      along p queues (front ++ j :: i :: back) := by
  have hsplit : (front ++ j :: i :: back) = (front ++ [j]) ++ i :: back := by
    rw [List.append_assoc, List.singleton_append]
  rw [hsplit] at hnodup ⊢
  obtain ⟨hbefore, hbehind, hapart⟩ := List.nodup_append.mp hnodup
  have hj : j ∉ front := fun hmem ↦
    (List.nodup_append.mp hbefore).2.2 j hmem j (List.mem_singleton_self j) rfl
  have hji : j ∉ i :: back := fun hmem ↦
    hapart j (List.mem_append_right _ (List.mem_singleton_self j)) j hmem rfl
  have hi : i ∉ front ++ [j] := fun hmem ↦ hapart i hmem i (List.mem_cons_self ..) rfl
  have hlater : along p (add other j item) (i :: back) = along p other (i :: back) :=
    along_add fun hmem ↦ absurd hmem hji
  have hearlier : along p other (front ++ [j]) = along p queues (front ++ [j]) :=
    along_remove hremove fun hmem ↦ absurd hmem hi
  calc along p (add other j item) ((front ++ [j]) ++ i :: back)
      = along p (add other j item) (front ++ [j]) ++ along p (add other j item) (i :: back) :=
        along_append ..
    _ = along p queues (front ++ [j]) ++ ([item].filter p ++ along p other (i :: back)) := by
        rw [along_add_last hj, hlater, hearlier, List.append_assoc]
    _ = along p queues ((front ++ [j]) ++ i :: back) := by
        rw [← along_remove_first hremove (List.nodup_cons.mp hbehind).1, ← along_append]

/-- Items put in queues outside the row, or not of the kind, do not count. -/
theorem along_addAll {items : List (ι × α)}
    (h : ∀ sent ∈ items, sent.1 ∈ row → p sent.2 = false) :
    along p (addAll queues items) row = along p queues row := by
  refine along_congr fun k hk ↦ ?_
  rw [addAll_apply, List.filter_append]
  have hnone : ((items.filter fun sent ↦ sent.1 = k).map Prod.snd).filter p = [] := by
    refine List.filter_eq_nil_iff.mpr fun x hx ↦ ?_
    obtain ⟨sent, hsent, rfl⟩ := List.mem_map.mp hx
    obtain ⟨hmem, hkey⟩ := List.mem_filter.mp hsent
    rw [h sent hmem (of_decide_eq_true hkey ▸ hk)]
    exact Bool.false_ne_true
  rw [hnone, List.append_nil]

/-- Of items put in queues, those in the row count. -/
theorem along_addAll_eq_add {items : List (ι × α)}
    (hitems : (items.filter fun sent ↦ sent.1 = j).map Prod.snd = [item])
    (h : ∀ sent ∈ items, sent.1 ∈ row → sent.1 = j) :
    along p (addAll queues items) row = along p (add queues j item) row := by
  refine along_congr fun k hk ↦ ?_
  rw [addAll_apply]
  by_cases hkj : k = j
  · subst hkj
    rw [hitems, add_self]
  · have hnone : (items.filter fun sent ↦ sent.1 = k) = [] := by
      refine List.filter_eq_nil_iff.mpr fun sent hsent hkey ↦ ?_
      have hkey' : sent.1 = k := of_decide_eq_true hkey
      exact hkj (hkey' ▸ h sent hsent (hkey' ▸ hk))
    rw [hnone, List.map_nil, List.append_nil, add_of_ne queues hkj]

/-- What is lost is missing, and the rest is in order. -/
theorem along_lose {position : ℕ} (h : lose queues i position = some other) (row : List ι) :
    (along p other row).Sublist (along p queues row) := by
  unfold lose at h
  split_ifs at h
  obtain rfl := Option.some.inj h
  induction row with
  | nil => exact List.Sublist.refl _
  | cons k rest ih =>
    rw [along_cons, along_cons]
    refine List.Sublist.append (List.Sublist.filter _ ?_) ih
    by_cases hki : k = i
    · subst hki
      rw [Function.update_self]
      exact List.eraseIdx_sublist _ _
    · rw [Function.update_of_ne hki]

end NetworkSimulation.Library.QueueFamily

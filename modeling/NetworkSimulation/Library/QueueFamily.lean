import Mathlib

/-!
# Families of first-in-first-out queues

A network of devices is, between two steps, a family of queues: one for every wire and one for every
buffer. A step takes the front of one queue and appends items to others. What is held where is
followed by `mem_addAll` and `mem_of_remove`, and every additive potential by `weight_addAll` and
`weight_remove`: the weight of a family is the sum over all queues of the weights of their items, so
a step changes it by the weight of the items appended less the weight of the item taken.
-/

set_option autoImplicit false
set_option relaxedAutoImplicit false

namespace NetworkSimulation.Library

/-- One queue for every index, front first. -/
abbrev QueueFamily (ι α : Type*) := ι → List α

namespace QueueFamily

variable {ι α : Type*} [DecidableEq ι]

/-- Append an item to a queue. -/
def add (queues : QueueFamily ι α) (i : ι) (item : α) : QueueFamily ι α :=
  Function.update queues i (queues i ++ [item])

/-- Append items one after the other, each to its queue. -/
def addAll (queues : QueueFamily ι α) (items : List (ι × α)) : QueueFamily ι α :=
  items.foldl (fun queues item ↦ add queues item.1 item.2) queues

/-- Take the front of a queue, if it is not empty. -/
def remove (queues : QueueFamily ι α) (i : ι) : Option (α × QueueFamily ι α) :=
  match queues i with
  | [] => none
  | item :: rest => some (item, Function.update queues i rest)

/-- Lose the item at a position of a queue. -/
def lose (queues : QueueFamily ι α) (i : ι) (position : ℕ) : Option (QueueFamily ι α) :=
  if position < (queues i).length then
    some (Function.update queues i ((queues i).eraseIdx position))
  else none

/-! ### What is held where -/

theorem mem_add {queues : QueueFamily ι α} {i j : ι} {item x : α} :
    x ∈ add queues i item j ↔ x ∈ queues j ∨ j = i ∧ x = item := by
  by_cases h : j = i
  · subst h
    simp [add]
  · simp [add, h]

theorem mem_addAll {items : List (ι × α)} :
    ∀ {queues : QueueFamily ι α} {j : ι} {x : α},
      x ∈ addAll queues items j ↔ x ∈ queues j ∨ (j, x) ∈ items := by
  induction items with
  | nil => intro queues j x; simp [addAll]
  | cons item rest ih =>
    intro queues j x
    have hrest : addAll queues (item :: rest) = addAll (add queues item.1 item.2) rest := rfl
    rw [hrest, ih, mem_add, List.mem_cons, or_assoc, Prod.ext_iff]

theorem remove_eq_some {queues rest : QueueFamily ι α} {i : ι} {item : α} :
    remove queues i = some (item, rest) ↔
      ∃ tail, queues i = item :: tail ∧ rest = Function.update queues i tail := by
  unfold remove
  split
  · rename_i hempty
    simp [hempty]
  · rename_i front tail hfront
    simp only [Option.some.injEq, Prod.mk.injEq, hfront, List.cons.injEq]
    constructor
    · rintro ⟨rfl, rfl⟩
      exact ⟨tail, ⟨rfl, rfl⟩, rfl⟩
    · rintro ⟨_, ⟨rfl, rfl⟩, rfl⟩
      exact ⟨rfl, rfl⟩

theorem item_mem_of_remove {queues rest : QueueFamily ι α} {i : ι} {item : α}
    (h : remove queues i = some (item, rest)) : item ∈ queues i := by
  obtain ⟨tail, hfront, -⟩ := remove_eq_some.mp h
  rw [hfront]
  exact List.mem_cons_self ..

/-- What is left was there before. -/
theorem mem_of_remove {queues rest : QueueFamily ι α} {i j : ι} {item x : α}
    (h : remove queues i = some (item, rest)) (hx : x ∈ rest j) : x ∈ queues j := by
  obtain ⟨tail, hfront, rfl⟩ := remove_eq_some.mp h
  by_cases hj : j = i
  · subst hj
    rw [Function.update_self] at hx
    rw [hfront]
    exact List.mem_cons_of_mem _ hx
  · rwa [Function.update_of_ne hj] at hx

/-- What was there is left, unless it is the item taken. -/
theorem mem_remove_or {queues rest : QueueFamily ι α} {i j : ι} {item x : α}
    (h : remove queues i = some (item, rest)) (hx : x ∈ queues j) :
    x ∈ rest j ∨ j = i ∧ x = item := by
  obtain ⟨tail, hfront, rfl⟩ := remove_eq_some.mp h
  by_cases hj : j = i
  · subst hj
    rw [hfront, List.mem_cons] at hx
    rw [Function.update_self]
    exact hx.symm.imp_right fun hitem ↦ ⟨rfl, hitem⟩
  · rw [Function.update_of_ne hj]
    exact Or.inl hx

theorem mem_of_lose {queues rest : QueueFamily ι α} {i j : ι} {position : ℕ} {x : α}
    (h : lose queues i position = some rest) (hx : x ∈ rest j) : x ∈ queues j := by
  unfold lose at h
  split_ifs at h
  obtain rfl := Option.some.inj h
  by_cases hj : j = i
  · subst hj
    rw [Function.update_self] at hx
    exact List.mem_of_mem_eraseIdx hx
  · rwa [Function.update_of_ne hj] at hx

/-! ### Potentials -/

section Weight

variable [Fintype ι]

/-- The total weight of the items of all queues. -/
def weight (value : ι → α → ℕ) (queues : QueueFamily ι α) : ℕ :=
  ∑ i, ((queues i).map (value i)).sum

/-- Replacing one queue changes the total by the difference of that queue. -/
theorem weight_update (value : ι → α → ℕ) (queues : QueueFamily ι α) (i : ι) (items : List α) :
    weight value (Function.update queues i items) + ((queues i).map (value i)).sum =
      weight value queues + (items.map (value i)).sum := by
  have hupdate : (fun j ↦ ((Function.update queues i items j).map (value j)).sum) =
      Function.update (fun j ↦ ((queues j).map (value j)).sum) i (items.map (value i)).sum := by
    funext j
    by_cases hj : j = i
    · subst hj
      simp only [Function.update_self]
    · simp only [Function.update_of_ne hj]
  have hsum := Finset.sum_update_of_mem (Finset.mem_univ i)
    (fun j ↦ ((queues j).map (value j)).sum) (items.map (value i)).sum
  have hsplit := Finset.sum_erase_add Finset.univ (fun j ↦ ((queues j).map (value j)).sum)
    (Finset.mem_univ i)
  rw [Finset.sdiff_singleton_eq_erase] at hsum
  unfold weight
  rw [hupdate, hsum]
  omega

theorem weight_add (value : ι → α → ℕ) (queues : QueueFamily ι α) (i : ι) (item : α) :
    weight value (add queues i item) = weight value queues + value i item := by
  have hupdate := weight_update value queues i (queues i ++ [item])
  rw [List.map_append, List.sum_append, List.map_singleton, List.sum_singleton] at hupdate
  change weight value (Function.update queues i (queues i ++ [item])) = _
  omega

theorem weight_addAll (value : ι → α → ℕ) (items : List (ι × α)) :
    ∀ queues : QueueFamily ι α, weight value (addAll queues items) =
      weight value queues + (items.map fun item ↦ value item.1 item.2).sum := by
  induction items with
  | nil => intro queues; rfl
  | cons item rest ih =>
    intro queues
    have hrest : addAll queues (item :: rest) = addAll (add queues item.1 item.2) rest := rfl
    rw [hrest, ih, weight_add, List.map_cons, List.sum_cons, add_assoc]

theorem weight_remove {value : ι → α → ℕ} {queues rest : QueueFamily ι α} {i : ι} {item : α}
    (h : remove queues i = some (item, rest)) :
    weight value queues = weight value rest + value i item := by
  obtain ⟨tail, hfront, rfl⟩ := remove_eq_some.mp h
  have hupdate := weight_update value queues i tail
  rw [hfront, List.map_cons, List.sum_cons] at hupdate
  omega

/-- Losing an item adds nothing. -/
theorem weight_lose_le (value : ι → α → ℕ) {queues rest : QueueFamily ι α} {i : ι} {position : ℕ}
    (h : lose queues i position = some rest) : weight value rest ≤ weight value queues := by
  unfold lose at h
  split_ifs at h
  obtain rfl := Option.some.inj h
  refine Finset.sum_le_sum fun j _ ↦ ?_
  by_cases hj : j = i
  · subst hj
    rw [Function.update_self]
    exact ((List.eraseIdx_sublist _ _).map _).sum_le_sum fun _ _ ↦ Nat.zero_le _
  · rw [Function.update_of_ne hj]

omit [DecidableEq ι] in
/-- A value that grows on the items held does not make the total smaller. -/
theorem weight_mono {value larger : ι → α → ℕ} {queues : QueueFamily ι α}
    (h : ∀ i, ∀ x ∈ queues i, value i x ≤ larger i x) :
    weight value queues ≤ weight larger queues :=
  Finset.sum_le_sum fun i _ ↦ List.sum_le_sum fun x hx ↦ h i x hx

omit [DecidableEq ι] in
/-- A family of positive weight holds an item of positive weight. -/
theorem exists_mem_of_weight_pos {value : ι → α → ℕ} {queues : QueueFamily ι α}
    (h : 0 < weight value queues) : ∃ i, ∃ x ∈ queues i, 0 < value i x := by
  by_contra hnone
  simp only [not_exists, not_and, not_lt] at hnone
  have hzero : weight value queues ≤ weight (fun _ _ ↦ 0) queues :=
    weight_mono fun i x hx ↦ hnone i x hx
  have hempty : weight (fun _ _ ↦ 0) queues = 0 := by simp [weight]
  omega

end Weight

/-! ### The contents of one queue -/

theorem add_self (queues : QueueFamily ι α) (i : ι) (item : α) :
    add queues i item i = queues i ++ [item] :=
  Function.update_self ..

theorem add_of_ne (queues : QueueFamily ι α) {i j : ι} (h : j ≠ i) (item : α) :
    add queues i item j = queues j :=
  Function.update_of_ne h ..

theorem addAll_apply (items : List (ι × α)) :
    ∀ (queues : QueueFamily ι α) (j : ι),
      addAll queues items j = queues j ++ (items.filter fun item ↦ item.1 = j).map Prod.snd := by
  induction items with
  | nil => intro queues j; exact (List.append_nil _).symm
  | cons item rest ih =>
    intro queues j
    have hrest : addAll queues (item :: rest) = addAll (add queues item.1 item.2) rest := rfl
    rw [hrest, ih]
    by_cases hj : item.1 = j
    · subst hj
      rw [add_self, List.filter_cons_of_pos (by simp), List.map_cons, List.append_assoc,
        List.singleton_append]
    · rw [add_of_ne queues (Ne.symm hj), List.filter_cons_of_neg (by simpa using hj)]

/-- Losing an item leaves those in front of it and those behind it. -/
theorem lose_eq_some {queues : QueueFamily ι α} {i : ι} {front back : List α} {item : α}
    (h : queues i = front ++ item :: back) :
    lose queues i front.length = some (Function.update queues i (front ++ back)) := by
  have hbound : front.length < (queues i).length := by
    rw [h, List.length_append, List.length_cons]
    omega
  rw [lose, if_pos hbound, h, List.eraseIdx_append_of_length_le le_rfl, Nat.sub_self,
    List.eraseIdx_cons_zero]

/-! ### Queues of bounded length -/

/-- Append an item to a queue that holds less than so many, and drop it otherwise. -/
def addWithin (capacity : ℕ) (queues : QueueFamily ι α) (i : ι) (item : α) : QueueFamily ι α :=
  if capacity ≤ (queues i).length then queues else add queues i item

theorem addWithin_of_full {capacity : ℕ} {queues : QueueFamily ι α} {i : ι}
    (h : capacity ≤ (queues i).length) (item : α) : addWithin capacity queues i item = queues :=
  if_pos h

theorem addWithin_of_room {capacity : ℕ} {queues : QueueFamily ι α} {i : ι}
    (h : ¬ capacity ≤ (queues i).length) (item : α) :
    addWithin capacity queues i item = add queues i item :=
  if_neg h

theorem mem_of_mem_addWithin {capacity : ℕ} {queues : QueueFamily ι α} {i j : ι} {item x : α}
    (h : x ∈ addWithin capacity queues i item j) : x ∈ queues j ∨ j = i ∧ x = item := by
  rw [addWithin] at h
  split_ifs at h with hfull
  · exact .inl h
  · exact mem_add.mp h

end QueueFamily

end NetworkSimulation.Library

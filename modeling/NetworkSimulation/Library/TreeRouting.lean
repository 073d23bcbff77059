import Mathlib

/-!
# Routing in a tree

In a tree every two vertices are joined by exactly one path, and `nextHop v t` is the first vertex
after `v` on the path from `v` to `t`. Everything a forwarding algorithm needs is local to an edge:
of two adjacent vertices exactly one is the next hop of the other towards a given target
(`nextHop_or`, `not_nextHop_both`). A step along next hops shortens the distance by one
(`dist_nextHop`), and stays on a path it starts on (`nextHop_mem_path`), which inside the path leads
the other way than the next hop towards the start (`nextHop_ne_of_mem_path`).

`isTree_of_parent` recognises a tree by a parent function and a depth it decreases.
-/

set_option autoImplicit false
set_option relaxedAutoImplicit false

namespace NetworkSimulation.Library.TreeRouting

open SimpleGraph

variable {V : Type*} {G : SimpleGraph V}

section Tree

variable (hG : G.IsTree)

/-- The only path between two vertices of a tree. -/
noncomputable def path (v t : V) : G.Walk v t := (hG.existsUnique_path v t).choose

/-- The vertex after `v` on the path from `v` to `t`; `t` itself when `v` is `t`. -/
noncomputable def nextHop (v t : V) : V := (path hG v t).snd

theorem isPath_path (v t : V) : (path hG v t).IsPath :=
  (hG.existsUnique_path v t).choose_spec.1

theorem eq_path {v t : V} {walk : G.Walk v t} (hwalk : walk.IsPath) : walk = path hG v t :=
  (hG.existsUnique_path v t).choose_spec.2 walk hwalk

theorem adj_nextHop {v t : V} (h : v ≠ t) : G.Adj v (nextHop hG v t) :=
  Walk.adj_snd (Walk.not_nil_of_ne h)

theorem nextHop_mem_path_self (v t : V) : nextHop hG v t ∈ (path hG v t).support :=
  Walk.getVert_mem_support _ _

theorem nextHop_self (v : V) : nextHop hG v v = v := by
  rw [nextHop, ← eq_path hG (Walk.IsPath.nil (u := v))]
  rfl

/-- Of two adjacent vertices, one is the next hop of the other. -/
theorem nextHop_or {v w : V} (hadj : G.Adj v w) (t : V) :
    nextHop hG v t = w ∨ nextHop hG w t = v := by
  by_cases hv : v ∈ (path hG w t).support
  · exact Or.inr (hG.isAcyclic.eq_snd_of_adj_start (isPath_path hG w t) hadj.symm hv).symm
  · have hpath : (Walk.cons hadj (path hG w t)).IsPath := (isPath_path hG w t).cons hv
    rw [nextHop, ← eq_path hG hpath, Walk.snd_cons]
    exact Or.inl rfl

/-- The length of the path is the distance. -/
theorem length_path (v t : V) : (path hG v t).length = G.dist v t := by
  obtain ⟨walk, hwalk, hlength⟩ := hG.connected.exists_path_of_dist v t
  rw [← eq_path hG hwalk, hlength]

/-- A step to the next hop shortens the distance by one. -/
theorem dist_nextHop {v t : V} (h : v ≠ t) : G.dist (nextHop hG v t) t + 1 = G.dist v t := by
  have hnil : ¬ (path hG v t).Nil := Walk.not_nil_of_ne h
  have htail : (path hG v t).tail.IsPath := (isPath_path hG v t).tail
  rw [← length_path hG v t, ← Walk.length_tail_add_one hnil, eq_path hG htail]
  exact congrArg (· + 1) (length_path hG _ t).symm

/-- Two vertices are not each other's next hop towards the same target, unless they are equal. -/
theorem not_nextHop_both {v w : V} (hadj : G.Adj v w) {t : V} (hv : nextHop hG v t = w) :
    nextHop hG w t ≠ v := by
  intro hw
  by_cases hvt : v = t
  · subst hvt
    rw [nextHop_self] at hv
    exact hadj.ne hv
  · by_cases hwt : w = t
    · subst hwt
      rw [nextHop_self] at hw
      exact hadj.ne hw.symm
    · have hdistv := dist_nextHop hG hvt
      have hdistw := dist_nextHop hG hwt
      rw [hv] at hdistv
      rw [hw] at hdistw
      omega

/-- The vertex an edge leads to is no further from the target, or one further. -/
theorem dist_of_nextHop_ne {v w t : V} (hadj : G.Adj v w) (h : nextHop hG v t ≠ w) :
    G.dist w t = G.dist v t + 1 := by
  have hback : nextHop hG w t = v := (nextHop_or hG hadj t).resolve_left h
  have hwt : w ≠ t := by
    rintro rfl
    rw [nextHop_self] at hback
    exact hadj.ne hback.symm
  rw [← dist_nextHop hG hwt, hback]

include hG in
theorem dist_lt_card [Fintype V] (v t : V) : G.dist v t < Fintype.card V := by
  rw [← length_path hG]
  exact (isPath_path hG v t).length_lt

/-! ### Moving along a path -/

/-- The next hop towards the end of a path is on the path. -/
theorem nextHop_mem_path {v t w : V} (hw : w ∈ (path hG v t).support) :
    nextHop hG w t ∈ (path hG v t).support := by
  classical
  have hdrop := eq_path hG ((isPath_path hG v t).dropUntil hw)
  have hnext := nextHop_mem_path_self hG w t
  rw [← hdrop] at hnext
  exact Walk.support_dropUntil_subset_support _ hw hnext

/-- The next hop towards the start of a path is on the path. -/
theorem nextHop_start_mem_path {v t w : V} (hw : w ∈ (path hG v t).support) :
    nextHop hG w v ∈ (path hG v t).support := by
  classical
  have htake := eq_path hG ((isPath_path hG v t).takeUntil hw).reverse
  have hnext := nextHop_mem_path_self hG w v
  rw [← htake, Walk.support_reverse, List.mem_reverse] at hnext
  exact Walk.support_takeUntil_subset_support _ hw hnext

/-- Inside a path the two ends lie in different directions. -/
theorem nextHop_ne_of_mem_path {v t w : V} (hw : w ∈ (path hG v t).support) (hwt : w ≠ t) :
    nextHop hG w v ≠ nextHop hG w t := by
  classical
  have htake := eq_path hG ((isPath_path hG v t).takeUntil hw).reverse
  have hdrop := eq_path hG ((isPath_path hG v t).dropUntil hw)
  have hback := nextHop_mem_path_self hG w v
  have hforth := nextHop_mem_path_self hG w t
  rw [← htake, Walk.support_reverse, List.mem_reverse] at hback
  rw [← hdrop] at hforth
  have happend : (((path hG v t).takeUntil w hw).append ((path hG v t).dropUntil w hw)).IsPath := by
    rw [Walk.take_spec]
    exact isPath_path hG v t
  exact happend.ne_of_mem_support_of_append (adj_nextHop hG hwt).ne' hback hforth

end Tree

/-! ### Recognising a tree -/

/-- A graph whose edges join every vertex but the root to its parent, of smaller depth, is a
tree. -/
theorem isTree_of_parent (root : V) (parent : V → V) (depth : V → ℕ)
    (hadj : ∀ v w, G.Adj v w ↔ v ≠ root ∧ parent v = w ∨ w ≠ root ∧ parent w = v)
    (hdepth : ∀ v, v ≠ root → depth (parent v) < depth v) : G.IsTree := by
  classical
  have hreachable : ∀ v, G.Reachable root v := by
    intro v
    induction hbound : depth v using Nat.strong_induction_on generalizing v with
    | _ bound ih =>
      by_cases hroot : v = root
      · rw [hroot]
      · have hparent := ih _ (hbound ▸ hdepth v hroot) (parent v) rfl
        exact hparent.trans ((hadj (parent v) v).mpr (Or.inr ⟨hroot, rfl⟩)).reachable
  refine ⟨(connected_iff_exists_forall_reachable G).mpr ⟨root, hreachable⟩, ?_⟩
  intro start cycle hcycle
  obtain ⟨top, htop, hmaximal⟩ := cycle.support.toFinset.exists_max_image depth
    ⟨start, List.mem_toFinset.mpr cycle.start_mem_support⟩
  rw [List.mem_toFinset] at htop
  have hrotated : (cycle.rotate top htop).IsCycle := hcycle.rotate htop
  have hdown : ∀ w ∈ (cycle.rotate top htop).support, G.Adj top w → w = parent top := by
    intro w hw htopw
    rcases (hadj top w).mp htopw with ⟨-, hparent⟩ | ⟨hroot, hparent⟩
    · exact hparent.symm
    · have hless := hdepth w hroot
      rw [hparent] at hless
      have hmember : w ∈ cycle.support :=
        (Walk.mem_support_rotate_iff cycle top htop).mp hw
      exact absurd (hmaximal w (List.mem_toFinset.mpr hmember)) (not_le.mpr hless)
  have hnil := hrotated.not_nil
  have hsnd := hdown _ (Walk.getVert_mem_support _ _) (Walk.adj_snd hnil)
  have hpenultimate := hdown _ (Walk.getVert_mem_support _ _) (Walk.adj_penultimate hnil).symm
  exact hrotated.snd_ne_penultimate (hsnd.trans hpenultimate.symm)

end NetworkSimulation.Library.TreeRouting

import Mathlib.Data.List.Basic
import Mathlib.Data.Nat.Bitwise
import Mathlib.Data.Nat.Log

/-!
# Cathedral.Lib.Merkle — binary hash trees over a list of nodes

The nodes of a level are joined in pairs, an odd one out with itself, until one node is
left. The leaves and the inner nodes are of one type, and nothing in a root tells how
many leaves are below it. A path leads from a node up, joined at each step with a sibling
on one side.

What is joined must be told from what it was joined of, but only for the pairs at hand.
-/

namespace Cathedral.Merkle

universe u

variable {ν : Type u} (H : ν → ν → ν)

/-- Neighbours, the last one with itself if it has none. -/
def pairs : List ν → List (ν × ν)
  | a :: b :: rest => (a, b) :: pairs rest
  | [a] => [(a, a)]
  | [] => []

def joinPair (p : ν × ν) : ν := H p.1 p.2

def levelUp (l : List ν) : List ν := (pairs l).map (joinPair H)

@[simp] theorem length_pairs : ∀ l : List ν, (pairs l).length = (l.length + 1) / 2
  | a :: b :: rest => by
    rw [pairs, List.length_cons, length_pairs rest, List.length_cons, List.length_cons]
    omega
  | [_] => by simp [pairs]
  | [] => by simp [pairs]

@[simp] theorem length_levelUp (l : List ν) : (levelUp H l).length = (l.length + 1) / 2 := by
  rw [levelUp, List.length_map, length_pairs]

/-- The top level. -/
def climb (l : List ν) : List ν := if 1 < l.length then climb (levelUp H l) else l
termination_by l.length
decreasing_by
  rw [length_levelUp]
  omega

/-- The node that is left; no root is over no leaves. -/
def root (l : List ν) : Option ν := (climb H l).head?

/-- Every pair that is joined on the way up. -/
def joined (l : List ν) : List (ν × ν) :=
  if 1 < l.length then pairs l ++ joined (levelUp H l) else []
termination_by l.length
decreasing_by
  rw [length_levelUp]
  omega

/-- The number of levels above the leaves. -/
def depth (l : List ν) : ℕ := Nat.clog 2 l.length

/-! ## Paths -/

/-- A step of a path: the other node, and whether it stands on the right. -/
structure Step (ν : Type u) where
  sibling : ν
  onRight : Bool

def Step.pair (s : Step ν) (cur : ν) : ν × ν :=
  if s.onRight then (cur, s.sibling) else (s.sibling, cur)

/-- The node at the end of a path. -/
def walk (cur : ν) (steps : List (Step ν)) : ν :=
  steps.foldl (fun cur s => joinPair H (s.pair cur)) cur

/-- The pairs that are joined along a path. -/
def walked : ν → List (Step ν) → List (ν × ν)
  | _, [] => []
  | cur, s :: steps => s.pair cur :: walked (joinPair H (s.pair cur)) steps

/-- A level with its last node doubled if it is odd. -/
def padded (l : List ν) : List ν := if l.length % 2 = 1 then l ++ l.getLast?.toList else l

/-- A level of the tree over the leaves. -/
inductive IsLevel (l : List ν) : List ν → Prop where
  | leaves : IsLevel l l
  | up {m : List ν} : IsLevel l m → 1 < m.length → IsLevel l (levelUp H m)

/-- The path from a leaf to the root; none where there is no such leaf. -/
def proof (l : List ν) (i : ℕ) : Option (List (Step ν)) :=
  if 1 < l.length then do
    let sibling ← (padded l)[i ^^^ 1]?
    let steps ← proof (levelUp H l) (i / 2)
    some (⟨sibling, i % 2 = 0⟩ :: steps)
  else some []
termination_by l.length
decreasing_by
  rw [length_levelUp]
  omega

/-! ## Levels -/

section Levels

variable {H} {l l' : List ν}

/-- Induction from the root down. -/
theorem level_induction {P : List ν → Prop} (htop : ∀ l, l.length ≤ 1 → P l)
    (hlevel : ∀ l, 1 < l.length → P (levelUp H l) → P l) (l : List ν) : P l := by
  induction hn : l.length using Nat.strong_induction_on generalizing l with
  | _ n ih =>
    by_cases h : 1 < l.length
    · exact hlevel l h (ih _ (by rw [length_levelUp]; omega) _ rfl)
    · exact htop l (by omega)

theorem root_levelUp (h : 1 < l.length) : root H (levelUp H l) = root H l := by
  rw [root, root, climb.eq_def H l, if_pos h]

theorem root_singleton (x : ν) : root H [x] = some x := by
  rw [root, climb, if_neg (by simp)]
  rfl

theorem joined_of_le_one (h : l.length ≤ 1) : joined H l = [] := by
  rw [joined, if_neg (by omega)]

theorem joined_eq (h : 1 < l.length) : joined H l = pairs l ++ joined H (levelUp H l) := by
  rw [joined, if_pos h]

theorem pairs_subset_joined (h : 1 < l.length) : pairs l ⊆ joined H l := by
  rw [joined_eq h]
  exact List.subset_append_left _ _

theorem joined_levelUp_subset (h : 1 < l.length) : joined H (levelUp H l) ⊆ joined H l := by
  rw [joined_eq h]
  exact List.subset_append_right _ _

theorem depth_levelUp (h : 1 < l.length) : depth l = depth (levelUp H l) + 1 := by
  rw [depth, depth, length_levelUp, Nat.clog_of_two_le (by omega) h]
  rfl

theorem depth_of_le_one (h : l.length ≤ 1) : depth l = 0 := Nat.clog_of_right_le_one h 2

theorem one_lt_of_depth (h : 0 < depth l) : 1 < l.length := by
  by_contra hle
  rw [depth_of_le_one (by omega)] at h
  omega

/-- A root above its leaves is joined of a pair. -/
theorem root_eq_joinPair (h : 1 < l.length) :
    ∃ p ∈ joined H l, root H l = some (joinPair H p) := by
  induction l using level_induction (H := H) with
  | htop l hle => omega
  | hlevel l hlt ih =>
    rw [← root_levelUp hlt]
    by_cases hup : 1 < (levelUp H l).length
    · obtain ⟨p, hp, hroot⟩ := ih hup
      exact ⟨p, joined_levelUp_subset hlt hp, hroot⟩
    · have hone : (levelUp H l).length = 1 := by
        rw [length_levelUp] at hup ⊢
        omega
      obtain ⟨x, hx⟩ := List.length_eq_one_iff.mp hone
      have hmem : x ∈ levelUp H l := by simp [hx]
      obtain ⟨p, hp, rfl⟩ := List.mem_map.mp hmem
      refine ⟨p, pairs_subset_joined hlt hp, ?_⟩
      rw [hx, root_singleton]

theorem pairs_inj : ∀ {l l' : List ν}, l.length = l'.length → pairs l = pairs l' → l = l'
  | [], [], _, _ => rfl
  | [a], [b], _, h => by
    rw [pairs, pairs, List.singleton_inj, Prod.mk.injEq] at h
    rw [h.1]
  | a :: b :: rest, c :: d :: rest', hlen, h => by
    rw [pairs, pairs, List.cons.injEq, Prod.mk.injEq] at h
    rw [h.1.1, h.1.2, pairs_inj (by simpa using hlen) h.2]
  | [], _ :: _, hlen, _ => by simp at hlen
  | _ :: _, [], hlen, _ => by simp at hlen
  | [_], _ :: _ :: _, hlen, _ => by simp at hlen
  | _ :: _ :: _, [_], hlen, _ => by simp at hlen

theorem mem_of_mem_pairs {p : ν × ν} : ∀ {l : List ν}, p ∈ pairs l → p.1 ∈ l ∧ p.2 ∈ l
  | a :: b :: rest, h => by
    rcases List.mem_cons.mp h with rfl | hrest
    · exact ⟨by simp, by simp⟩
    · obtain ⟨hfirst, hsecond⟩ := mem_of_mem_pairs hrest
      exact ⟨by simp [hfirst], by simp [hsecond]⟩
  | [a], h => by
    rw [pairs, List.mem_singleton] at h
    subst h
    exact ⟨by simp, by simp⟩

theorem levelUp_replicate (x : ν) (n : ℕ) :
    levelUp H (List.replicate n x) =
      List.replicate ((n + 1) / 2) (joinPair H (x, x)) := by
  have hall : ∀ p ∈ pairs (List.replicate n x), p = (x, x) := fun p hp => by
    obtain ⟨hfirst, hsecond⟩ := mem_of_mem_pairs hp
    rw [Prod.ext_iff]
    exact ⟨List.eq_of_mem_replicate hfirst, List.eq_of_mem_replicate hsecond⟩
  rw [levelUp, List.eq_replicate_of_mem hall, List.map_replicate, length_pairs,
    List.length_replicate]

/-- The root over copies of one leaf depends on the depth alone. -/
theorem root_replicate (x : ν) {n : ℕ} (hn : 0 < n) :
    root H (List.replicate n x) =
      some ((fun y => joinPair H (y, y))^[Nat.clog 2 n] x) := by
  induction n using Nat.strong_induction_on generalizing x with
  | _ n ih =>
    by_cases hlt : 1 < n
    · rw [← root_levelUp (by simpa using hlt), levelUp_replicate, ih _ (by omega) _ (by omega),
        Nat.clog_of_two_le (by omega) hlt, Function.iterate_succ_apply]
      rfl
    · obtain rfl : n = 1 := by omega
      rw [List.replicate_one, root_singleton, Nat.clog_one_right]
      rfl

/-- The last node of a level is one of the last pair. -/
theorem getLast?_levelUp (h : l ≠ []) : ∃ p ∈ pairs l, l.getLast? = some p.2 ∧
    (levelUp H l).getLast? = some (joinPair H p) := by
  induction l using pairs.induct with
  | case1 a b rest ih =>
    rw [levelUp, pairs]
    by_cases hrest : rest = []
    · subst hrest
      exact ⟨(a, b), by simp, rfl, rfl⟩
    · obtain ⟨p, hp, hlast, hup⟩ := ih hrest
      have hpairs : pairs rest ≠ [] := List.ne_nil_of_mem hp
      refine ⟨p, List.mem_cons_of_mem _ hp, ?_, ?_⟩
      · rw [List.getLast?_cons_cons, List.getLast?_cons_of_ne_nil hrest, hlast]
      · rw [List.map_cons, List.getLast?_cons_of_ne_nil (by simpa using hpairs)]
        exact hup
  | case2 a => exact ⟨(a, a), by simp [pairs], rfl, rfl⟩
  | case3 => exact absurd rfl h

theorem IsLevel.root_eq {m : List ν} (h : IsLevel H l m) : root H m = root H l := by
  induction h with
  | leaves => rfl
  | up _ hlt ih => exact (root_levelUp hlt).trans ih

end Levels

/-! ## Binding -/

section Binding

variable {H} {l l' : List ν}

/-- No two of the pairs are joined to one node. -/
def Apart (H : ν → ν → ν) (ps qs : List (ν × ν)) : Prop :=
  ∀ p ∈ ps, ∀ q ∈ qs, joinPair H p = joinPair H q → p = q

theorem Apart.mono {ps ps' qs qs' : List (ν × ν)} (h : Apart H ps qs) (hp : ps' ⊆ ps)
    (hq : qs' ⊆ qs) : Apart H ps' qs' :=
  fun p hmem q hmem' => h p (hp hmem) q (hq hmem')

theorem Apart.map_eq {ps qs : List (ν × ν)} (h : Apart H ps qs)
    (heq : ps.map (joinPair H) = qs.map (joinPair H)) : ps = qs := by
  induction ps generalizing qs with
  | nil =>
    rw [List.map_nil, eq_comm, List.map_eq_nil_iff] at heq
    exact heq.symm
  | cons p ps ih =>
    cases qs with
    | nil => simp at heq
    | cons q qs =>
      rw [List.map_cons, List.map_cons, List.cons.injEq] at heq
      rw [h p List.mem_cons_self q List.mem_cons_self heq.1,
        ih (h.mono (List.subset_cons_self p ps) (List.subset_cons_self q qs)) heq.2]

/-- The levels below two levels are as far apart as the whole trees. -/
theorem Apart.levelUp (h : Apart H (joined H l) (joined H l')) (hl : 1 < l.length)
    (hl' : 1 < l'.length) :
    Apart H (joined H (levelUp H l)) (joined H (levelUp H l')) :=
  h.mono (joined_levelUp_subset hl) (joined_levelUp_subset hl')

/-- Trees with equally many leaves and one root are equal. -/
theorem root_inj (hlen : l.length = l'.length) (h : Apart H (joined H l) (joined H l'))
    (hroot : root H l = root H l') : l = l' := by
  induction l using level_induction (H := H) generalizing l' with
  | htop l hle =>
    cases l with
    | nil => exact (List.length_eq_zero_iff.mp hlen.symm).symm
    | cons x rest =>
      obtain rfl : rest = [] := List.length_eq_zero_iff.mp (by simpa using hle)
      obtain ⟨y, rfl⟩ := List.length_eq_one_iff.mp hlen.symm
      rw [root_singleton, root_singleton, Option.some.injEq] at hroot
      rw [hroot]
  | hlevel l hlt ih =>
    have hlt' : 1 < l'.length := hlen ▸ hlt
    rw [← root_levelUp hlt, ← root_levelUp hlt'] at hroot
    have hup := ih (by rw [length_levelUp, length_levelUp, hlen]) (h.levelUp hlt hlt') hroot
    have hpairs := (h.mono (pairs_subset_joined hlt) (pairs_subset_joined hlt')).map_eq hup
    exact pairs_inj hlen hpairs

/-- What a path leads to is joined of its last pair. -/
theorem walk_eq_joinPair {steps : List (Step ν)} (h : steps ≠ []) (x : ν) :
    ∃ p ∈ walked H x steps, walk H x steps = joinPair H p := by
  induction steps generalizing x with
  | nil => exact absurd rfl h
  | cons s steps ih =>
    by_cases hsteps : steps = []
    · subst hsteps
      exact ⟨s.pair x, List.mem_cons_self, rfl⟩
    · obtain ⟨p, hp, hwalk⟩ := ih hsteps (joinPair H (s.pair x))
      exact ⟨p, List.mem_cons_of_mem _ hp, hwalk⟩

theorem walk_append (x : ν) (steps steps' : List (Step ν)) :
    walk H x (steps ++ steps') = walk H (walk H x steps) steps' :=
  List.foldl_append

/-- A path with as many steps as there are levels starts at a leaf. -/
theorem mem_of_walk {x : ν} {steps : List (Step ν)} (hlen : steps.length = depth l)
    (h : Apart H (walked H x steps) (joined H l))
    (hroot : root H l = some (walk H x steps)) : x ∈ l := by
  induction l using level_induction (H := H) generalizing x steps with
  | htop l hle =>
    rw [depth_of_le_one hle, List.length_eq_zero_iff] at hlen
    subst hlen
    cases l with
    | nil =>
      rw [root, climb, if_neg (by simp)] at hroot
      cases hroot
    | cons y rest =>
      obtain rfl : rest = [] := List.length_eq_zero_iff.mp (by simpa using hle)
      rw [root_singleton, Option.some.injEq] at hroot
      exact List.mem_singleton.mpr hroot.symm
  | hlevel l hlt ih =>
    rw [depth_levelUp (H := H) hlt] at hlen
    cases steps with
    | nil => simp at hlen
    | cons s steps =>
      rw [← root_levelUp hlt] at hroot
      have hmem := ih (by simpa using hlen)
        (h.mono (List.subset_cons_self _ _) (joined_levelUp_subset hlt)) hroot
      obtain ⟨p, hp, hjoin⟩ := List.mem_map.mp hmem
      have hpair : s.pair x = p :=
        h _ List.mem_cons_self p (pairs_subset_joined hlt hp) hjoin.symm
      obtain ⟨hfirst, hsecond⟩ := mem_of_mem_pairs hp
      rw [← hpair, Step.pair] at hfirst hsecond
      cases hside : s.onRight with
      | true => simpa [hside] using hfirst
      | false => simpa [hside] using hsecond

/-- A path with fewer steps than there are levels starts above the leaves. -/
theorem joined_of_walk {x : ν} {steps : List (Step ν)} (hlen : steps.length < depth l)
    (h : Apart H (walked H x steps) (joined H l))
    (hroot : root H l = some (walk H x steps)) : ∃ p ∈ joined H l, x = joinPair H p := by
  induction l using level_induction (H := H) with
  | htop l hle =>
    rw [depth_of_le_one hle] at hlen
    exact absurd hlen (Nat.not_lt_zero _)
  | hlevel l hlt ih =>
    rw [depth_levelUp (H := H) hlt] at hlen
    rw [← root_levelUp hlt] at hroot
    have hup := h.mono (List.Subset.refl _) (joined_levelUp_subset hlt)
    rcases Nat.lt_or_ge steps.length (depth (levelUp H l)) with hless | hmore
    · obtain ⟨p, hp, hx⟩ := ih hless hup hroot
      exact ⟨p, joined_levelUp_subset hlt hp, hx⟩
    · have hmem := mem_of_walk (by omega) hup hroot
      obtain ⟨p, hp, hx⟩ := List.mem_map.mp hmem
      exact ⟨p, pairs_subset_joined hlt hp, hx.symm⟩

/-- Trees of one depth with one root have one last leaf. -/
theorem getLast?_of_depth_eq (hdepth : depth l = depth l') (hl : l ≠ []) (hl' : l' ≠ [])
    (h : Apart H (joined H l) (joined H l')) (hroot : root H l = root H l') :
    l.getLast? = l'.getLast? := by
  induction l using level_induction (H := H) generalizing l' with
  | htop l hle =>
    have hlone : l.length = 1 := by
      have := List.length_pos_of_ne_nil hl
      omega
    have hlone' : l'.length = 1 := by
      rw [depth_of_le_one hle] at hdepth
      have hpos := List.length_pos_of_ne_nil hl'
      by_contra hne
      have hdeep := depth_levelUp (H := H) (l := l') (by omega)
      omega
    rw [root_inj (hlone.trans hlone'.symm) h hroot]
  | hlevel l hlt ih =>
    have hdeep := depth_levelUp (H := H) hlt
    have hlt' : 1 < l'.length := one_lt_of_depth (by omega)
    have hdeep' := depth_levelUp (H := H) hlt'
    obtain ⟨p, hp, hlast, hup⟩ := getLast?_levelUp (H := H) hl
    obtain ⟨p', hp', hlast', hup'⟩ := getLast?_levelUp (H := H) hl'
    rw [← root_levelUp hlt, ← root_levelUp hlt'] at hroot
    have hsame := ih (by omega) (by rintro hnil; simp [hnil] at hup)
      (by rintro hnil; simp [hnil] at hup') (h.levelUp hlt hlt') hroot
    rw [hup, hup', Option.some.injEq] at hsame
    rw [hlast, hlast',
      h p (pairs_subset_joined hlt hp) p' (pairs_subset_joined hlt' hp') hsame]

/-- A level of a deeper tree has the depth of a shallow one, and its nodes are joined. -/
theorem exists_levelUp (hdepth : depth l < depth l') :
    ∃ m, 1 < m.length ∧ depth (levelUp H m) = depth l ∧ root H m = root H l' ∧
      joined H m ⊆ joined H l' := by
  induction l' using level_induction (H := H) with
  | htop l' hle =>
    rw [depth_of_le_one hle] at hdepth
    omega
  | hlevel l' hlt ih =>
    have hdeep := depth_levelUp (H := H) hlt
    by_cases hlast : depth (levelUp H l') = depth l
    · exact ⟨l', hlt, hlast, rfl, List.Subset.refl _⟩
    · obtain ⟨m, hm, hsame, hroot, hjoined⟩ := ih (by omega)
      exact ⟨m, hm, hsame, hroot.trans (root_levelUp hlt),
        List.Subset.trans hjoined (joined_levelUp_subset hlt)⟩

/-- The last leaf of a tree that has the root of a deeper one is joined inside that one. -/
theorem getLast?_of_deeper (hdepth : depth l < depth l') (hl : l ≠ [])
    (h : Apart H (joined H l) (joined H l')) (hroot : root H l = root H l') :
    ∃ p ∈ joined H l', l.getLast? = some (joinPair H p) := by
  obtain ⟨m, hm, hsame, hrootm, hjoined⟩ := exists_levelUp (H := H) hdepth
  have hne : m ≠ [] := List.ne_nil_of_length_pos (by omega)
  obtain ⟨p, hp, -, hup⟩ := getLast?_levelUp (H := H) hne
  have hlast := getLast?_of_depth_eq hsame.symm hl (by rintro hnil; simp [hnil] at hup)
    (h.mono (List.Subset.refl _) (List.Subset.trans (joined_levelUp_subset hm) hjoined))
    (hroot.trans (hrootm.symm.trans (root_levelUp hm).symm))
  exact ⟨p, hjoined (pairs_subset_joined hm hp), hlast.trans hup⟩

end Binding

/-! ## The path to a leaf -/

section Proof

variable {H} {l : List ν}

theorem padded_cons_cons (a b : ν) (rest : List ν) :
    padded (a :: b :: rest) = a :: b :: padded rest := by
  unfold padded
  rw [List.length_cons, List.length_cons]
  by_cases hodd : rest.length % 2 = 1
  · have hrest : rest ≠ [] := by
      rintro rfl
      simp at hodd
    rw [if_pos (by omega), if_pos hodd, List.getLast?_cons_cons,
      List.getLast?_cons_of_ne_nil hrest]
    rfl
  · rw [if_neg (by omega), if_neg hodd]

/-- A pair is two neighbours of the padded level. -/
theorem getElem?_pairs : ∀ (l : List ν) (j : ℕ) (p : ν × ν), (pairs l)[j]? = some p →
    (padded l)[2 * j]? = some p.1 ∧ (padded l)[2 * j + 1]? = some p.2
  | a :: b :: rest, 0, p, h => by
    rw [pairs, List.getElem?_cons_zero, Option.some.injEq] at h
    subst h
    rw [padded_cons_cons]
    exact ⟨rfl, rfl⟩
  | a :: b :: rest, j + 1, p, h => by
    rw [pairs, List.getElem?_cons_succ] at h
    rw [padded_cons_cons]
    exact getElem?_pairs rest j p h
  | [a], 0, p, h => by
    rw [pairs, List.getElem?_cons_zero, Option.some.injEq] at h
    subst h
    exact ⟨rfl, rfl⟩
  | [a], j + 1, p, h => by simp [pairs] at h
  | [], j, p, h => by simp [pairs] at h

theorem getElem?_padded {i : ℕ} (hi : i < l.length) : (padded l)[i]? = l[i]? := by
  unfold padded
  split_ifs
  · exact List.getElem?_append_left hi
  · rfl

/-- The path to a leaf has a step for each level and leads to the root. -/
theorem walk_proof {i : ℕ} {x : ν} (hx : l[i]? = some x) :
    ∃ steps, proof H l i = some steps ∧ steps.length = depth l ∧
      root H l = some (walk H x steps) := by
  induction l using level_induction (H := H) generalizing i x with
  | htop l hle =>
    cases l with
    | nil => simp at hx
    | cons y rest =>
      obtain rfl : rest = [] := List.length_eq_zero_iff.mp (by simpa using hle)
      have hi : i < 1 := (List.getElem?_eq_some_iff.mp hx).1
      obtain rfl : i = 0 := by omega
      cases hx
      refine ⟨[], ?_, (depth_of_le_one (by simp)).symm, root_singleton x⟩
      rw [proof, if_neg (by simp)]
  | hlevel l hlt ih =>
    obtain ⟨hi, -⟩ := List.getElem?_eq_some_iff.mp hx
    have hj : i / 2 < (pairs l).length := by
      rw [length_pairs]
      omega
    obtain ⟨hleft, hright⟩ :=
      getElem?_pairs l (i / 2) _ (List.getElem?_eq_getElem hj)
    obtain ⟨steps, hproof, hlen, hroot⟩ := ih (i := i / 2)
      (x := joinPair H (pairs l)[i / 2]) (by rw [levelUp, List.getElem?_map,
        List.getElem?_eq_getElem hj, Option.map_some])
    have hself := (getElem?_padded hi).trans hx
    -- the node is the left or the right one of its pair
    obtain ⟨s, hs, hside, hpair⟩ : ∃ s : Step ν, (padded l)[i ^^^ 1]? = some s.sibling ∧
        s.onRight = decide (i % 2 = 0) ∧ s.pair x = (pairs l)[i / 2] := by
      by_cases heven : i % 2 = 0
      · have hxor : i ^^^ 1 = 2 * (i / 2) + 1 := by
          rw [Nat.xor_one_of_even (Nat.even_iff.mpr heven)]
          omega
        rw [show 2 * (i / 2) = i by omega, hself, Option.some.injEq] at hleft
        refine ⟨⟨(pairs l)[i / 2].2, true⟩, by rw [hxor]; exact hright, by simp [heven], ?_⟩
        rw [Step.pair, if_pos rfl, hleft]
      · have hxor : i ^^^ 1 = 2 * (i / 2) := by
          rw [Nat.xor_one_of_odd (Nat.odd_iff.mpr (by omega))]
          omega
        rw [show 2 * (i / 2) + 1 = i by omega, hself, Option.some.injEq] at hright
        refine ⟨⟨(pairs l)[i / 2].1, false⟩, by rw [hxor]; exact hleft, by simp [heven], ?_⟩
        rw [Step.pair, if_neg (by simp), hright]
    refine ⟨s :: steps, ?_, ?_, ?_⟩
    · rw [proof, if_pos hlt, hs, hproof, ← hside]
      rfl
    · rw [List.length_cons, hlen, depth_levelUp (H := H) hlt]
    · rw [← root_levelUp hlt, hroot]
      show _ = some (walk H (joinPair H (s.pair x)) steps)
      rw [hpair]

end Proof

end Cathedral.Merkle

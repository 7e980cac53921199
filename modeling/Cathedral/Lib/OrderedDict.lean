import Cathedral.Lib.Table

/-!
# Cathedral.Lib.OrderedDict — dictionaries that forget their oldest items

`collections.OrderedDict` as a bounded cache: a use moves an item to the end, and the items
at the front go when there are too many. The rules say what a lookup finds afterwards: a use
changes nothing (`get?_moveToEnd`), and what is found in a trimmed dictionary was there before
(`get?_trim`).
-/

namespace Cathedral.Dict

universe u v

variable {K : Type u} {V : Type v} [DecidableEq K] {d : Dict K V} {k k' : K} {v : V}

/-- `d.move_to_end(k)`, of a key that is there. -/
def moveToEnd (d : Dict K V) (k : K) : Dict K V :=
  match d.get? k with
  | some v => (d.filterItems fun k' _ => k' ≠ k).set k v
  | none => d

/-- `while len(d) > n: d.popitem(last=False)`. -/
def trim (d : Dict K V) (n : ℕ) : Dict K V where
  items := d.items.drop (d.items.length - n)
  nodup := d.nodup.sublist ((List.drop_sublist _ _).map _)

@[simp] theorem get?_moveToEnd (d : Dict K V) (k k' : K) : (d.moveToEnd k).get? k' = d.get? k' := by
  unfold moveToEnd
  split
  · next v hv =>
      rw [get?_set, get?_filterItems]
      split_ifs with hk
      · rw [← hk, hv]
      · cases h : d.get? k' with
        | none => rfl
        | some w => simp [Ne.symm hk]
  · rfl

theorem get?_trim {n : ℕ} (h : (d.trim n).get? k = some v) : d.get? k = some v :=
  mem_items.mp (List.mem_of_mem_drop (mem_items.mpr h))

end Cathedral.Dict

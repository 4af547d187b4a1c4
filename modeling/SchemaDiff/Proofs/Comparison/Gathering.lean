import Mathlib.Data.List.Nodup
import SchemaDiff.Comparison
import SchemaDiff.Proofs.Schema

/-
Gathering of records by a key, such as the table they are about: there is one group for each key, in the
order in which the keys first come up, and every record is in its group, in the order of the records.
-/
namespace SchemaDiff
open Text

theorem nodup_eraseDups (keys : List Text) : keys.eraseDups.Nodup := by
  cases keys with
  | nil => exact List.nodup_nil
  | cons k others =>
    rw [List.eraseDups_cons, List.nodup_cons]
    refine ⟨?_, nodup_eraseDups (others.filter fun other => !other == k)⟩
    rw [List.mem_eraseDups]
    simp
termination_by keys.length
decreasing_by exact Nat.lt_succ_of_le (List.length_filter_le _ _)

section

variable {α β : Type} {key : β → Text} {name : α → Text} {f : α → List β}

theorem fst_gather (items : List β) :
    (gather key items).map Prod.fst = (items.map key).eraseDups := by
  simp [gather, Function.comp_def]

theorem mem_gather {items : List β} {group : Text × List β} (member : group ∈ gather key items) :
    group.2 = items.filter (key · == group.1) := by
  obtain ⟨k, _, rfl⟩ := List.mem_map.mp member
  rfl

theorem gather_cons (x : β) (others : List β) :
    gather key (x :: others) =
      (key x, x :: others.filter (key · == key x)) ::
        gather key (others.filter fun y => !key y == key x) := by
  rw [gather, List.map_cons, List.eraseDups_cons, List.map_cons, List.filter_map, gather]
  congr 1
  · simp
  -- The keys of the later groups are other ones, so these groups lose nothing to the first.
  apply List.map_congr_left
  intro k member
  have other : k ≠ key x := by
    obtain ⟨y, kept, rfl⟩ := List.mem_map.mp (List.mem_eraseDups.mp member)
    simpa using (List.mem_filter.mp kept).2
  have later : others.filter (key · == k) =
      (others.filter fun y => !key y == key x).filter (key · == k) := by
    rw [List.filter_filter]
    apply List.filter_congr
    intro y _
    by_cases same : key y = k
    · simp [same, other]
    · simp [same]
  rw [List.filter_cons_of_neg (by simpa using Ne.symm other), later]

theorem gather_eq_nil {items : List β} : gather key items = [] ↔ items = [] := by
  cases items with
  | nil => simp [gather]
  | cons x others => simp [gather_cons]

theorem ne_nil_of_mem_gather {items : List β} {group : Text × List β}
    (member : group ∈ gather key items) : group.2 ≠ [] := by
  obtain ⟨k, listed, rfl⟩ := List.mem_map.mp member
  obtain ⟨x, inside, rfl⟩ := List.mem_map.mp (List.mem_eraseDups.mp listed)
  exact List.ne_nil_of_mem (List.mem_filter.mpr ⟨inside, by simp⟩)

theorem mem_keys_iff_filter {items : List β} {k : Text} :
    k ∈ items.map key ↔ items.filter (key · == k) ≠ [] := by
  simp [List.filter_eq_nil_iff]

theorem gather_perm {items others : List β}
    (groups : ∀ k, items.filter (key · == k) = others.filter (key · == k)) :
    (gather key items).Perm (gather key others) := by
  have keys : (items.map key).eraseDups.Perm (others.map key).eraseDups := by
    rw [List.perm_ext_iff_of_nodup (nodup_eraseDups _) (nodup_eraseDups _)]
    intro k
    rw [List.mem_eraseDups, List.mem_eraseDups, mem_keys_iff_filter, mem_keys_iff_filter, groups]
  simp only [gather, groups]
  exact keys.map _

theorem mem_keys_flatMap (keyed : ∀ x, ∀ y ∈ f x, key y = name x) {xs : List α} {k : Text}
    (member : k ∈ (xs.flatMap f).map key) : k ∈ xs.map name := by
  obtain ⟨y, inside, rfl⟩ := List.mem_map.mp member
  obtain ⟨x, listed, inside⟩ := List.mem_flatMap.mp inside
  exact List.mem_map.mpr ⟨x, listed, (keyed x y inside).symm⟩

theorem filter_flatMap_key (keyed : ∀ x, ∀ y ∈ f x, key y = name x) (xs : List α) (k : Text) :
    (xs.flatMap f).filter (key · == k) = (xs.filter (name · == k)).flatMap f := by
  induction xs with
  | nil => rfl
  | cons x others ih =>
    rw [List.flatMap_cons, List.filter_append, ih]
    by_cases same : name x = k
    · rw [List.filter_cons_of_pos (by simpa using same), List.flatMap_cons,
        List.filter_eq_self.mpr fun y inside => by simp [keyed x y inside, same]]
    · rw [List.filter_cons_of_neg (by simpa using same),
        List.filter_eq_nil_iff.mpr fun y inside => by simp [keyed x y inside, same],
        List.nil_append]

theorem filter_flatMap_of_perm (keyed : ∀ x, ∀ y ∈ f x, key y = name x) {xs ys : List α}
    (distinct : (xs.map name).Nodup) (perm : xs.Perm ys) (k : Text) :
    (xs.flatMap f).filter (key · == k) = (ys.flatMap f).filter (key · == k) := by
  rw [filter_flatMap_key keyed, filter_flatMap_key keyed, filter_key_of_perm distinct perm]

theorem filter_flatMap_of_mem (keyed : ∀ x, ∀ y ∈ f x, key y = name x) {xs : List α}
    (distinct : (xs.map name).Nodup) {x : α} (member : x ∈ xs) :
    (xs.flatMap f).filter (key · == name x) = f x := by
  rw [filter_flatMap_key keyed, filter_of_distinct distinct member, List.flatMap_singleton]

/-- What comes from items with distinct names is gathered into one group for each item that has any. -/
theorem gather_flatMap (keyed : ∀ x, ∀ y ∈ f x, key y = name x) {xs : List α}
    (distinct : (xs.map name).Nodup) :
    gather key (xs.flatMap f) = (xs.filter (f · ≠ [])).map fun x => (name x, f x) := by
  induction xs with
  | nil => rfl
  | cons x others ih =>
    rw [List.map_cons, List.nodup_cons] at distinct
    have apart : ∀ y ∈ others.flatMap f, key y ≠ name x := by
      intro y inside same
      exact distinct.1 (same ▸ mem_keys_flatMap keyed (List.mem_map_of_mem inside))
    cases shape : f x with
    | nil => simpa [shape] using ih distinct.2
    | cons y more =>
      have first : key y = name x := keyed x y (by simp [shape])
      have own : ∀ z ∈ more, key z = name x := fun z inside => keyed x z (by simp [shape, inside])
      have group : (more ++ others.flatMap f).filter (key · == name x) = more := by
        rw [List.filter_append, List.filter_eq_self.mpr (by simpa using own),
          List.filter_eq_nil_iff.mpr (by simpa using apart), List.append_nil]
      have rest : (more ++ others.flatMap f).filter (fun z => !key z == name x) =
          others.flatMap f := by
        rw [List.filter_append, List.filter_eq_nil_iff.mpr (by simpa using own),
          List.filter_eq_self.mpr (by simpa using apart), List.nil_append]
      rw [List.flatMap_cons, shape, List.cons_append, gather_cons, first, group, rest, ih distinct.2,
        List.filter_cons_of_pos (by simp [shape]), List.map_cons, shape]

end

end SchemaDiff

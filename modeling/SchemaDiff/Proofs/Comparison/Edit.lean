import Mathlib.Data.List.Nodup
import SchemaDiff.Text.Basic

/-
Edits of one item of a list. An edit finds its item by a test and may fail on it; edits of items with
distinct keys, one after the other, amount to one map over the list.
-/
namespace SchemaDiff
open Text

/-- Edits the first item that passes the test; fails where no item does. -/
def editFirst {α : Type} (p : α → Bool) (f : α → Option α) : List α → Option (List α)
  | [] => none
  | x :: rest => if p x then (f x).map (· :: rest) else (editFirst p f rest).map (x :: ·)

section

variable {α β : Type} {key : α → Text}

theorem keys_map {h : α → α} (keeps : ∀ x, key (h x) = key x) (xs : List α) :
    (xs.map h).map key = xs.map key := by
  rw [List.map_map]
  exact List.map_congr_left fun x _ => keeps x

def atKey (key : α → Text) (k : Text) (h : α → α) (x : α) : α := if key x = k then h x else x

def offKey (key : α → Text) (k : Text) (h : α → α) (x : α) : α := if key x = k then x else h x

section

variable {k : Text} {h : α → α}

theorem key_atKey (keeps : ∀ x, key (h x) = key x) (x : α) : key (atKey key k h x) = key x := by
  rw [atKey]
  split
  · exact keeps x
  · rfl

theorem key_offKey (keeps : ∀ x, key (h x) = key x) (x : α) : key (offKey key k h x) = key x := by
  rw [offKey]
  split
  · rfl
  · exact keeps x

theorem map_offKey_atKey (keeps : ∀ x, key (h x) = key x) (xs : List α) :
    (xs.map (atKey key k h)).map (offKey key k h) = xs.map h := by
  rw [List.map_map]
  apply List.map_congr_left
  intro x _
  rw [Function.comp_apply]
  by_cases same : key x = k
  · rw [show atKey key k h x = h x from if_pos same]
    exact if_pos (by rw [keeps, same])
  · rw [show atKey key k h x = x from if_neg same]
    exact if_neg same

theorem editFirst_eq_map {p : α → Bool} {f : α → Option α} (sound : ∀ x, p x → key x = k)
    {xs : List α} (distinct : (xs.map key).Nodup) {x : α} (member : x ∈ xs) (passes : p x)
    (edited : f x = some (h x)) : editFirst p f xs = some (xs.map (atKey key k h)) := by
  induction xs with
  | nil => simp at member
  | cons z rest ih =>
    rw [List.map_cons, List.nodup_cons] at distinct
    have same := sound x passes
    rcases List.mem_cons.mp member with rfl | later
    · have others : ∀ z ∈ rest, atKey key k h z = id z := by
        intro z inside
        apply if_neg
        intro clash
        exact distinct.1 (by rw [same, ← clash]; exact List.mem_map_of_mem inside)
      have here : atKey key k h x = h x := if_pos same
      rw [editFirst, if_pos passes, edited, List.map_cons, here, List.map_congr_left others,
        List.map_id]
      rfl
    · have other : key z ≠ k := by
        intro clash
        exact distinct.1 (by rw [clash, ← same]; exact List.mem_map_of_mem later)
      have fails : ¬p z := fun passes => other (sound z passes)
      have still : atKey key k h z = z := if_neg other
      rw [editFirst, if_neg fails, ih distinct.2 later, List.map_cons, still]
      rfl

end

/-- Edits of distinct items, one after the other, change each item as `h` does, if `h` leaves all
other items as they are. -/
theorem foldlM_editFirst {target : β → Text} {p : β → α → Bool} {f : β → α → Option α}
    (sound : ∀ i x, p i x → key x = target i) {items : List β}
    (apart : (items.map target).Nodup) {xs : List α} (distinct : (xs.map key).Nodup) {h : α → α}
    (keeps : ∀ x, key (h x) = key x)
    (edits : ∀ i ∈ items, ∃ x ∈ xs, p i x ∧ f i x = some (h x))
    (rests : ∀ x ∈ xs, key x ∉ items.map target → h x = x) :
    items.foldlM (fun ys i => editFirst (p i) (f i) ys) xs = some (xs.map h) := by
  -- The induction is on the edits, for every `h`: once the first edit is done, what is left to do is
  -- `h` off its key.
  induction items generalizing xs h with
  | nil =>
    have same : ∀ x ∈ xs, h x = id x := fun x member => rests x member (by simp)
    rw [List.map_congr_left same, List.map_id]
    rfl
  | cons i others ih =>
    rw [List.map_cons, List.nodup_cons] at apart
    obtain ⟨x, member, passes, edited⟩ := edits i List.mem_cons_self
    have first : editFirst (p i) (f i) xs = some (xs.map (atKey key (target i) h)) :=
      editFirst_eq_map (sound i) distinct member passes edited
    rw [List.foldlM_cons, first, ← map_offKey_atKey keeps xs]
    refine ih apart.2 (by rwa [keys_map (key_atKey keeps)]) (key_offKey keeps) ?_ ?_
    · intro j listed
      obtain ⟨y, inside, passes, edited⟩ := edits j (List.mem_cons_of_mem i listed)
      have other : key y ≠ target i := by
        rw [sound j y passes]
        intro clash
        exact apart.1 (clash ▸ List.mem_map_of_mem listed)
      have still : atKey key (target i) h y = y := if_neg other
      refine ⟨y, List.mem_map.mpr ⟨y, inside, still⟩, passes, ?_⟩
      rw [edited, show offKey key (target i) h y = h y from if_neg other]
    · intro y inside free
      obtain ⟨z, member, rfl⟩ := List.mem_map.mp inside
      rw [key_atKey keeps] at free
      by_cases same : key z = target i
      · exact if_pos (by rw [key_atKey keeps, same])
      · rw [show atKey key (target i) h z = z from if_neg same,
          show offKey key (target i) h z = h z from if_neg same]
        exact rests z member (by simp [same, free])

theorem foldlM_editFirst_head {p : α → Bool} {f : β → α → Option α}
    (keeps : ∀ i x y, f i x = some y → p x → p y) (items : List β) {x : α} (passes : p x)
    (rest : List α) :
    items.foldlM (fun ys i => editFirst p (f i) ys) (x :: rest) =
      (items.foldlM (fun y i => f i y) x).map (· :: rest) := by
  induction items generalizing x with
  | nil => rfl
  | cons i others ih =>
    rw [List.foldlM_cons, List.foldlM_cons, editFirst, if_pos passes]
    cases edited : f i x with
    | none => rfl
    | some y => exact ih (keeps i x y edited passes)

theorem foldlM_editFirst_tail {p : α → Bool} {f : β → α → Option α} (items : List β) {x : α}
    (fails : ¬p x) (rest : List α) :
    items.foldlM (fun ys i => editFirst p (f i) ys) (x :: rest) =
      (items.foldlM (fun ys i => editFirst p (f i) ys) rest).map (x :: ·) := by
  induction items generalizing rest with
  | nil => rfl
  | cons i others ih =>
    rw [List.foldlM_cons, List.foldlM_cons, editFirst, if_neg fails]
    cases edited : editFirst p (f i) rest with
    | none => rfl
    | some ys => exact ih ys

theorem foldlM_editFirst_same {p : α → Bool} {f : β → α → Option α}
    (keeps : ∀ i x y, f i x = some y → p x → p y) {items : List β} (solid : items ≠ [])
    (xs : List α) :
    items.foldlM (fun ys i => editFirst p (f i) ys) xs =
      editFirst p (fun x => items.foldlM (fun y i => f i y) x) xs := by
  induction xs with
  | nil =>
    cases items with
    | nil => contradiction
    | cons i others => rfl
  | cons x rest ih =>
    by_cases passes : p x
    · rw [foldlM_editFirst_head keeps items passes, editFirst, if_pos passes]
    · rw [foldlM_editFirst_tail items passes, ih, editFirst, if_neg passes]

end

theorem foldlM_congr {α σ : Type} {f g : σ → α → Option σ} {xs : List α}
    (same : ∀ x ∈ xs, ∀ s, f s x = g s x) (s : σ) : xs.foldlM f s = xs.foldlM g s := by
  induction xs generalizing s with
  | nil => rfl
  | cons x others ih =>
    rw [List.foldlM_cons, List.foldlM_cons, same x List.mem_cons_self]
    exact congrArg _ (funext (ih fun y member => same y (List.mem_cons_of_mem x member)))

theorem foldlM_flatMap {α β σ : Type} {f : α → List β} {step : σ → β → Option σ} (xs : List α)
    (s : σ) :
    (xs.flatMap f).foldlM step s =
      (xs.filter (f · ≠ [])).foldlM (fun s x => (f x).foldlM step s) s := by
  induction xs generalizing s with
  | nil => rfl
  | cons x others ih =>
    rw [List.flatMap_cons, List.foldlM_append]
    by_cases empty : f x = []
    · rw [List.filter_cons_of_neg (by simp [empty]), empty]
      exact ih s
    · rw [List.filter_cons_of_pos (by simp [empty]), List.foldlM_cons]
      exact congrArg _ (funext ih)

end SchemaDiff

import SchemaDiff.Proofs.Text.Thinning
import SchemaDiff.Sql.Comment

/-
Literals and quoted names. One ends at the same quote however its blanks are squeezed, and however what comes
after it is thinned.
-/
namespace SchemaDiff.Sql
open SchemaDiff.Text SchemaDiff.Text.Pattern

section

variable {q : Char} {escapes : Bool}

theorem literalRest_cons (c : Char) (t : Text) :
    literalRest q escapes (c :: t) =
      if t.head? = some q ∧ (c = q ∨ (escapes ∧ c = '\\')) then
        match literalRest q escapes t.tail with
        | some n => some (n + 2)
        | none => some (if c = q then 1 else 2)
      else if c = q then some 1
      else (literalRest q escapes t).map (· + 1) := by
  cases t with
  | nil =>
    rw [literalRest]
    simp [literalRest]
  | cons d rest =>
    have next : (d :: rest).head? = some q ↔ d = q := by simp
    rw [literalRest]
    exact if_congr (and_congr_left' next.symm) rfl rfl

theorem within_literalRest {t : Text} {n : Nat} (found : literalRest q escapes t = some n) :
    0 < n ∧ n ≤ t.length := by
  fun_induction literalRest q escapes t generalizing n with
  | case1 => cases found
  | case2 => cases found; simp
  | case3 => cases found
  | case4 c d rest pair m later ih =>
    cases found
    have := ih later
    simp only [List.length_cons]
    omega
  | case5 c d rest pair nothing ih =>
    cases found
    simp only [List.length_cons]
    split <;> omega
  | case6 => cases found; simp
  | case7 c d rest single other ih =>
    obtain ⟨m, later, rfl⟩ := Option.map_eq_some_iff.mp found
    have := ih later
    simp only [List.length_cons] at this ⊢
    omega

theorem literalRest_eq_none {t : Text} : literalRest q escapes t = none ↔ q ∉ t := by
  fun_induction literalRest q escapes t with
  | case1 => simp
  | case2 => simp
  | case3 c other => simpa using Ne.symm other
  | case4 c d rest pair => simp [pair.1]
  | case5 c d rest pair => simp [pair.1]
  | case6 => simp
  | case7 c d rest single other ih => simp [ih, Ne.symm other]

theorem literalRest_quote (dark : isBlank q = false) {after rest : Text} (thins : Thins rest after)
    (found : literalRest q escapes (q :: rest) = some 1) : literalRest q escapes (q :: after) = some 1 := by
  rw [literalRest_cons] at found ⊢
  by_cases doubled : after.head? = some q
  · have before := thins.head? dark doubled
    rw [if_pos ⟨before, .inl rfl⟩] at found
    rw [if_pos ⟨doubled, .inl rfl⟩]
    obtain ⟨more, rfl⟩ := List.head?_eq_some_iff.mp doubled
    obtain ⟨others, rfl⟩ := List.head?_eq_some_iff.mp before
    simp only [List.tail_cons] at found ⊢
    have gone : literalRest q escapes others = none := by
      cases later : literalRest q escapes others with
      | none => rfl
      | some n => simp [later] at found
    have absent : q ∉ more := by
      have fewer := thins.count dark
      rw [literalRest_eq_none, ← List.count_eq_zero] at gone
      rw [← List.count_eq_zero]
      simp only [List.count_cons_self] at fewer
      omega
    simp [literalRest_eq_none.mpr absent]
  · rw [if_neg fun pair => doubled pair.1, if_pos rfl]

/-- What is left of a literal after its opening quote, where `rest` comes after it. -/
inductive LiteralBody (q : Char) (escapes : Bool) (rest : Text) : Text → Prop
  | closed (last : literalRest q escapes (q :: rest) = some 1) : LiteralBody q escapes rest [q]
  | escaped (c : Char) (opens : escapes ∧ c = '\\') (other : c ≠ q) (absent : q ∉ rest) :
    LiteralBody q escapes rest [c, q]
  | pair (c : Char) (body : Text) (opens : c = q ∨ (escapes ∧ c = '\\'))
    (later : LiteralBody q escapes rest body) : LiteralBody q escapes rest (c :: q :: body)
  | plain (c : Char) (body : Text) (other : c ≠ q)
    (single : ¬(body.head? = some q ∧ escapes ∧ c = '\\'))
    (later : LiteralBody q escapes rest body) : LiteralBody q escapes rest (c :: body)

theorem LiteralBody.solid {body rest : Text} (inside : LiteralBody q escapes rest body) : body ≠ [] := by
  cases inside <;> simp

theorem LiteralBody.literalRest {body rest : Text} (inside : LiteralBody q escapes rest body) :
    literalRest q escapes (body ++ rest) = some body.length := by
  induction inside with
  | closed last => exact last
  | escaped c opens other absent =>
    rw [List.cons_append, literalRest_cons, if_pos ⟨rfl, .inr opens⟩]
    simp [literalRest_eq_none.mpr absent, other]
  | pair c body opens later ih =>
    rw [List.cons_append, literalRest_cons, if_pos ⟨rfl, opens⟩]
    simp [ih]
  | plain c body other single later ih =>
    have alone : ¬((body ++ rest).head? = some q ∧ (c = q ∨ (escapes ∧ c = '\\'))) := by
      obtain ⟨d, body, rfl⟩ := List.exists_cons_of_ne_nil later.solid
      simpa [other] using single
    rw [List.cons_append, literalRest_cons, if_neg alone, if_neg other, ih]
    rfl

theorem literalBody_of_literalRest {body rest : Text}
    (found : literalRest q escapes (body ++ rest) = some body.length) : LiteralBody q escapes rest body := by
  induction body using List.twoStepInduction with
  | nil => simpa using (within_literalRest found).1
  | singleton c =>
    by_cases quote : c = q
    · subst quote
      exact .closed found
    · -- Some quote is taken in any case, and `c` is none.
      rw [List.cons_append, literalRest_cons, if_neg quote, if_neg quote] at found
      split at found
      · split at found <;> simp at found
      · obtain ⟨n, inner, single⟩ := Option.map_eq_some_iff.mp found
        have := (within_literalRest inner).1
        rw [List.length_singleton] at single
        omega
  | cons_cons c d body ih ihNext =>
    have shown := found
    rw [List.cons_append, literalRest_cons, List.cons_append, List.head?_cons, List.tail_cons] at found
    by_cases pair : some d = some q ∧ (c = q ∨ (escapes ∧ c = '\\'))
    · rw [if_pos pair] at found
      obtain ⟨same, opens⟩ := pair
      obtain rfl := Option.some.inj same
      cases later : literalRest d escapes (body ++ rest) with
      | some n =>
        have inside : literalRest d escapes (body ++ rest) = some body.length := by
          rw [later] at found ⊢
          simpa using found
        exact .pair c body opens (ih inside)
      | none =>
        rw [later] at found
        obtain ⟨other, rfl⟩ : c ≠ d ∧ body = [] := by
          by_cases same : c = d <;> simp [same] at found
          exact ⟨same, found⟩
        exact .escaped c (opens.resolve_left other) other (literalRest_eq_none.mp later)
    · rw [if_neg pair] at found
      by_cases quote : c = q
      · simp [quote] at found
      · rw [if_neg quote] at found
        have inner : literalRest q escapes (d :: body ++ rest) = some (d :: body).length := by simpa using found
        have single : ¬((d :: body).head? = some q ∧ escapes ∧ c = '\\') := by simpa [quote] using pair
        exact .plain c (d :: body) quote single (ihNext d inner)

theorem LiteralBody.endsDark (dark : isBlank q = false) {body rest : Text}
    (inside : LiteralBody q escapes rest body) : EndsDark body := by
  induction inside with
  | closed last => simpa [EndsDark] using dark
  | escaped c opens other absent => simpa [EndsDark] using dark
  | pair c body opens later ih => exact (endsDark_append (s := [c, q]) later.solid).mpr ih
  | plain c body other single later ih => exact (endsDark_append (s := [c]) later.solid).mpr ih

theorem LiteralBody.before (dark : isBlank q = false) {body rest after : Text} (thins : Thins rest after)
    (inside : LiteralBody q escapes rest body) : LiteralBody q escapes after body := by
  induction inside with
  | closed last => exact .closed (literalRest_quote dark thins last)
  | escaped c opens other absent =>
    exact .escaped c opens other (thins.not_mem dark absent)
  | pair c body opens later ih => exact .pair c body opens ih
  | plain c body other single later ih => exact .plain c body other single ih

theorem LiteralBody.squeezeAfter (dark : isBlank q = false) {body rest : Text}
    (inside : LiteralBody q escapes rest body) (blank : Bool) :
    LiteralBody q escapes rest (squeezeAfter blank body) := by
  have escape {c : Char} (opens : escapes ∧ c = '\\') : isBlank c = false := by
    rw [opens.2]
    decide
  induction inside generalizing blank with
  | closed last => simpa [Text.squeezeAfter, dark] using closed last
  | escaped c opens other absent =>
    simpa [Text.squeezeAfter, dark, escape opens] using escaped c opens other absent
  | pair c body opens later ih =>
    have darkFirst : isBlank c = false := by
      rcases opens with rfl | opens
      · exact dark
      · exact escape opens
    simpa [Text.squeezeAfter, dark, darkFirst] using pair c _ opens (ih false)
  | plain c body other single later ih =>
    rw [Text.squeezeAfter]
    by_cases space : isBlank c
    · rw [if_pos space]
      cases blank with
      | true => exact ih true
      | false =>
        have spaceOther : ' ' ≠ q := by
          rintro rfl
          cases dark
        exact plain ' ' _ spaceOther (by simp) (ih true)
    · rw [if_neg space]
      refine plain c _ other ?_ (ih false)
      rintro ⟨next, opens⟩
      exact single ⟨head?_squeeze dark next, opens⟩

end

end SchemaDiff.Sql

import Mathlib.Data.List.DropRight
import Mathlib.Data.List.TakeWhile

/-!
# Cutting texts

A part of a text ends at the first character that it cannot hold, and what stands behind that character is
nothing to it.  So the part in front can be told apart from the rest without a look at the rest.

## What is here

* `takeWhile_append_cons`, `dropWhile_append_cons`, `rdropWhile_append_cons` — cutting a text that has a
  character no part goes beyond;
* `takeWhile_ne_append`, `dropWhile_ne_append`, `append_cons_inj` — the cut at the first one of a character;
* `dropWhile_takeWhile`, `dropWhile_dropWhile` — one cut after another.
-/

set_option autoImplicit false
namespace LogSearch.Text

/-! ## Where a part must end -/

section ends

variable {p : Char → Bool} {c : Char} {xs ys : List Char}

theorem takeWhile_append_cons (h : p c = false) : (xs ++ c :: ys).takeWhile p = xs.takeWhile p := by
  induction xs with
  | nil => simp [h]
  | cons x xs ih =>
    rw [List.cons_append, List.takeWhile_cons, List.takeWhile_cons, ih]

theorem dropWhile_append_cons (h : p c = false) :
    (xs ++ c :: ys).dropWhile p = xs.dropWhile p ++ c :: ys := by
  induction xs with
  | nil => simp [h]
  | cons x xs ih =>
    rw [List.cons_append, List.dropWhile_cons, List.dropWhile_cons, ih]
    split <;> rfl

theorem rdropWhile_append_cons (h : p c = false) :
    (xs ++ c :: ys).rdropWhile p = xs ++ c :: ys.rdropWhile p := by
  have hreverse : (xs ++ c :: ys).reverse = ys.reverse ++ c :: xs.reverse := by simp
  rw [List.rdropWhile, hreverse, dropWhile_append_cons h]
  simp [List.rdropWhile]

end ends

/-! ## The first one of a character -/

section first

variable {c : Char} {xs ys : List Char}

theorem takeWhile_ne_of_notMem (h : c ∉ xs) : xs.takeWhile (· != c) = xs :=
  List.takeWhile_eq_self_iff.2 fun _ hd ↦ bne_iff_ne.2 fun hdc ↦ h (hdc ▸ hd)

theorem dropWhile_ne_of_notMem (h : c ∉ xs) : xs.dropWhile (· != c) = [] :=
  List.dropWhile_eq_nil_iff.2 fun _ hd ↦ bne_iff_ne.2 fun hdc ↦ h (hdc ▸ hd)

theorem takeWhile_ne_append (h : c ∉ xs) : (xs ++ c :: ys).takeWhile (· != c) = xs := by
  rw [takeWhile_append_cons (p := (· != c)) (bne_self_eq_false c), takeWhile_ne_of_notMem h]

theorem dropWhile_ne_append (h : c ∉ xs) : (xs ++ c :: ys).dropWhile (· != c) = c :: ys := by
  rw [dropWhile_append_cons (p := (· != c)) (bne_self_eq_false c), dropWhile_ne_of_notMem h,
    List.nil_append]

/-- There is one first cut. -/
theorem append_cons_inj {xs' ys' : List Char} (hxs : c ∉ xs) (hxs' : c ∉ xs')
    (h : xs ++ c :: ys = xs' ++ c :: ys') : xs = xs' ∧ ys = ys' := by
  have htake : xs = xs' := by
    rw [← takeWhile_ne_append hxs, h, takeWhile_ne_append hxs']
  subst htake
  exact ⟨rfl, by simpa using h⟩

end first

/-! ## One cut after another -/

section twice

variable {p q : Char → Bool} {xs : List Char}

/-- A longer cut can be made first. -/
theorem dropWhile_takeWhile :
    (xs.takeWhile q).dropWhile p = (xs.dropWhile fun d ↦ p d && q d).takeWhile q := by
  induction xs with
  | nil => rfl
  | cons x xs ih =>
    cases hq : q x with
    | false => simp [hq]
    | true =>
      cases hp : p x with
      | false => simp [hp, hq]
      | true => simpa [hp, hq] using ih

theorem dropWhile_dropWhile (h : ∀ d, p d = true → q d = true) :
    (xs.dropWhile p).dropWhile q = xs.dropWhile q := by
  induction xs with
  | nil => rfl
  | cons x xs ih =>
    cases hp : p x with
    | false => simp [hp]
    | true => simpa [hp, h x hp] using ih

end twice

end LogSearch.Text

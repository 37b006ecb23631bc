import Mathlib.Data.List.DropRight

/-! Properties of every position of a finite sequence, judged by what preceded it. -/

set_option autoImplicit false
namespace BleRemote.Reactive

variable {A : Type}

/-- `p past a` holds at every position, with `past` what stands before it. -/
def Always (p : List A → A → Prop) (l : List A) : Prop :=
  ∀ past a rest, l = past ++ a :: rest → p past a

theorem always_nil (p : List A → A → Prop) : Always p [] := by
  intro past a rest same
  simp at same

theorem always_concat (p : List A → A → Prop) (l : List A) (a : A) :
    Always p (l ++ [a]) ↔ Always p l ∧ p l a := by
  constructor
  · intro always
    refine ⟨fun past b rest same => ?_, always l a [] rfl⟩
    exact always past b (rest ++ [a]) (by rw [same, List.append_assoc, List.cons_append])
  · intro ⟨always, last⟩ past b rest same
    rcases List.eq_nil_or_concat rest with rfl | ⟨front, c, rfl⟩
    · obtain ⟨rfl, tail⟩ := List.append_inj' same rfl
      cases tail
      exact last
    · have split : l = past ++ b :: front := by
        rw [List.concat_eq_append, ← List.cons_append, ← List.append_assoc] at same
        exact (List.append_inj' same rfl).1
      exact always past b front split

theorem always_singleton (p : List A → A → Prop) (a : A) : Always p [a] ↔ p [] a := by
  simpa [always_nil] using always_concat p [] a

theorem Always.of_append {p : List A → A → Prop} {l rest : List A} (always : Always p (l ++ rest)) :
    Always p l :=
  fun past a later same => always past a (later ++ rest) (by rw [same]; simp)

theorem Always.mono {p q : List A → A → Prop} {l : List A} (always : Always p l)
    (implies : ∀ past a, p past a → q past a) : Always q l :=
  fun past a rest same => implies past a (always past a rest same)

theorem always_iff_take (p : List A → A → Prop) (l : List A) :
    Always p l ↔ ∀ i : Fin l.length, p (l.take i) l[i] := by
  constructor
  · intro always i
    apply always (l.take i) l[i] (l.drop (i + 1))
    exact (List.take_append_drop i l).symm.trans (by rw [List.drop_eq_getElem_cons i.isLt]; rfl)
  · rintro positions past a rest rfl
    simpa using positions ⟨past.length, by simp⟩

instance (p : List A → A → Prop) [∀ past a, Decidable (p past a)] (l : List A) :
    Decidable (Always p l) :=
  decidable_of_iff _ (always_iff_take p l).symm

def sinceLast (p : A → Bool) (l : List A) : List A := l.rtakeWhile fun a => !p a

@[simp] theorem sinceLast_nil (p : A → Bool) : sinceLast p [] = [] := rfl

theorem sinceLast_concat (p : A → Bool) (l : List A) (a : A) :
    sinceLast p (l ++ [a]) = if p a then [] else sinceLast p l ++ [a] := by
  unfold sinceLast
  cases marked : p a with
  | true => simp [List.rtakeWhile_concat_neg, marked]
  | false => simp [List.rtakeWhile_concat_pos, marked]

theorem sinceLast_suffix (p : A → Bool) (l : List A) : sinceLast p l <:+ l :=
  List.rtakeWhile_suffix _ _

theorem sinceLast_cons {p : A → Bool} (past : List A) {a : A} {rest : List A} (here : p a = false)
    (later : ∀ b ∈ rest, p b = false) : a ∈ sinceLast p (past ++ a :: rest) := by
  induction rest using List.reverseRecOn with
  | nil => simp [sinceLast_concat, here]
  | append_singleton rest b ih =>
    rw [← List.cons_append, ← List.append_assoc, sinceLast_concat, later b (by simp)]
    apply List.mem_append_left
    exact ih fun c member => later c (List.mem_append_left _ member)

def fromFirst (p : A → Bool) (l : List A) : List A := l.dropWhile fun a => !p a

@[simp] theorem fromFirst_nil (p : A → Bool) : fromFirst p [] = [] := rfl

theorem fromFirst_concat (p : A → Bool) (l : List A) (a : A) :
    fromFirst p (l ++ [a]) =
      if fromFirst p l = [] then if p a then [a] else [] else fromFirst p l ++ [a] := by
  induction l with
  | nil => cases marked : p a <;> simp [fromFirst, marked]
  | cons b l ih =>
    unfold fromFirst at ih ⊢
    cases marked : p b with
    | true => simp [marked]
    | false => simpa [List.dropWhile_cons, marked] using ih

theorem fromFirst_head {p : A → Bool} {l rest : List A} {a : A} (same : fromFirst p l = a :: rest) :
    p a = true := by
  induction l with
  | nil => cases same
  | cons b l ih =>
    unfold fromFirst at same ih
    cases marked : p b with
    | true =>
      rw [List.dropWhile_cons_of_neg (by simp [marked])] at same
      obtain ⟨rfl, -⟩ := List.cons.inj same
      exact marked
    | false =>
      rw [List.dropWhile_cons_of_pos (by simp [marked])] at same
      exact ih same

theorem fromFirst_suffix (p : A → Bool) (l : List A) : fromFirst p l <:+ l :=
  List.dropWhile_suffix _

end BleRemote.Reactive

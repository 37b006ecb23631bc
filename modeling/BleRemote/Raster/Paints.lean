import Mathlib.Data.Set.Lattice
import Mathlib.Data.List.Induction

/-! Pictures and what drawing does to them: inside of a region the colours are given,
outside they stay. -/

set_option autoImplicit false
namespace BleRemote.Raster

variable {P C : Type}

/-- The picture after is that of `content` in the region and the picture before elsewhere. -/
structure Paints (region : Set P) (content before after : P → C) : Prop where
  inside (p : P) : p ∈ region → after p = content p
  outside (p : P) : p ∉ region → after p = before p

namespace Paints

variable {region second : Set P} {content upper before between after : P → C}

theorem refl (content before : P → C) : Paints ∅ content before before :=
  ⟨fun _ none => none.elim, fun _ _ => rfl⟩

theorem congr (paints : Paints region content before after)
    (same : ∀ p ∈ region, content p = upper p) : Paints region upper before after :=
  ⟨fun p member => (paints.inside p member).trans (same p member), paints.outside⟩

theorem congr_region (paints : Paints region content before after)
    (same : ∀ p, p ∈ second ↔ p ∈ region) : Paints second content before after :=
  ⟨fun p member => paints.inside p ((same p).mp member),
    fun p other => paints.outside p (mt (same p).mpr other)⟩

/-- Parts of one picture, drawn one after the other. -/
theorem union (first : Paints region content before between)
    (rest : Paints second content between after) :
    Paints (region ∪ second) content before after := by
  constructor
  · intro p member
    by_cases last : p ∈ second
    · exact rest.inside p last
    · rw [rest.outside p last]
      exact first.inside p (member.resolve_right last)
  · intro p other
    rw [rest.outside p (fun member => other (.inr member)),
      first.outside p (fun member => other (.inl member))]

/-- One picture over another that covers it. -/
theorem cover [DecidablePred (· ∈ second)] (first : Paints region content before between)
    (rest : Paints second upper between after) (covers : second ⊆ region) :
    Paints region (fun p => if p ∈ second then upper p else content p) before after := by
  constructor
  · intro p member
    by_cases last : p ∈ second
    · rw [if_pos last, rest.inside p last]
    · rw [if_neg last, rest.outside p last, first.inside p member]
  · intro p other
    rw [rest.outside p (mt (@covers p) other), first.outside p other]

end Paints

/-! ## Writes to separate regions -/

section
variable {K T : Type} [DecidableEq K]

/-- The last thing written under a key. -/
def lastWrite (k : K) (writes : List (K × T)) : Option T :=
  (writes.filter fun w => w.1 == k).getLast?.map Prod.snd

theorem lastWrite_concat (k : K) (writes : List (K × T)) (w : K × T) :
    lastWrite k (writes ++ [w]) = if w.1 = k then some w.2 else lastWrite k writes := by
  unfold lastWrite
  by_cases same : w.1 = k
  · simp [same]
  · simp [same]

theorem mem_of_lastWrite {k : K} {writes : List (K × T)} {t : T} (last : lastWrite k writes = some t) :
    (k, t) ∈ writes := by
  obtain ⟨w, found, rfl⟩ := Option.map_eq_some_iff.mp last
  obtain ⟨member, key⟩ := List.mem_filter.mp (List.mem_of_getLast? found)
  rw [beq_iff_eq] at key
  exact key ▸ member

variable {S : Type} {picture : S → P → C} {write : S → K × T → S} {good : S → Prop}
  {fits : K × T → Prop} {region : K → Set P} {content : K → T → P → C}

/-- When every write paints the region of its key, and the regions are separate, the last
write under a key is all that is left there. -/
theorem paints_writes (separate : ∀ j k p, p ∈ region j → p ∈ region k → j = k)
    (step : ∀ s w, good s → fits w → good (write s w) ∧
      Paints (region w.1) (content w.1 w.2) (picture s) (picture (write s w)))
    {s : S} (start : good s) (writes : List (K × T)) (fitting : ∀ w ∈ writes, fits w) :
    good (writes.foldl write s) ∧
      (∀ k, ∀ p ∈ region k, picture (writes.foldl write s) p =
        ((lastWrite k writes).map fun t => content k t p).getD (picture s p)) ∧
      ∀ p, (∀ k, p ∉ region k) → picture (writes.foldl write s) p = picture s p := by
  induction writes using List.reverseRecOn with
  | nil => exact ⟨start, fun _ _ _ => rfl, fun _ _ => rfl⟩
  | append_singleton writes w ih =>
    obtain ⟨holds, inside, outside⟩ := ih fun w member => fitting w (List.mem_append_left _ member)
    obtain ⟨next, paints⟩ := step _ w holds (fitting w (List.mem_append_right _ (List.mem_singleton_self w)))
    rw [List.foldl_append, List.foldl_cons, List.foldl_nil]
    refine ⟨next, fun k p member => ?_, fun p other => ?_⟩
    · rw [lastWrite_concat]
      by_cases same : w.1 = k
      · subst same
        rw [if_pos rfl, paints.inside p member]
        rfl
      · have apart : p ∉ region w.1 := fun also => same (separate _ _ p also member)
        rw [if_neg same, paints.outside p apart]
        exact inside k p member
    · rw [paints.outside p (other w.1)]
      exact outside p other

end
end BleRemote.Raster

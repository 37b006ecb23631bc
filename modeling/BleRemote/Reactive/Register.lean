import BleRemote.Reactive.Machine

/-! Registers: parts of the state that some steps overwrite and all others leave
alone. What a register holds is the last value written to it. -/

set_option autoImplicit false
namespace BleRemote.Reactive

structure Register {State Input Output : Type} (m : Machine State Input Output) (Value : Type) where
  read : State → Value
  /-- The value a step writes, if it writes. -/
  write : Moment State Input Output → Option Value
  step (s : State) (i : Input) : read (m.step s i).1 = (write (m.moment s i)).getD (read s)

namespace Register

variable {State Input Output Value : Type} {m : Machine State Input Output} (r : Register m Value)

def writes (h : List (Moment State Input Output)) : List Value := h.filterMap r.write

theorem writes_append (past recent : List (Moment State Input Output)) :
    r.writes (past ++ recent) = r.writes past ++ r.writes recent := List.filterMap_append

theorem mem_writes {h : List (Moment State Input Output)} {v : Value} :
    v ∈ r.writes h ↔ ∃ t ∈ h, r.write t = some v := List.mem_filterMap

theorem read_after (s : State) (inputs : List Input) :
    r.read (m.after s inputs) = (r.writes (m.history s inputs)).getLast?.getD (r.read s) := by
  induction inputs using List.reverseRecOn with
  | nil => rfl
  | append_singleton inputs i ih =>
    rw [m.after_concat, r.step, ih, m.history_concat, r.writes_append, List.getLast?_append]
    -- the last step writes over everything, or does not count
    cases written : r.write (m.moment (m.after s inputs) i) with
    | none => simp [writes, written]
    | some v => simp [writes, written]

theorem read_recent {s : State} {inputs : List Input}
    {recent : List (Moment State Input Output)} (suffix : recent <:+ m.history s inputs)
    (written : r.writes recent ≠ []) : r.read (m.after s inputs) ∈ r.writes recent := by
  obtain ⟨past, same⟩ := suffix
  obtain ⟨v, last⟩ := Option.ne_none_iff_exists'.mp (mt List.getLast?_eq_none_iff.mp written)
  rw [r.read_after, ← same, r.writes_append, List.getLast?_append, last]
  exact List.mem_of_getLast? last

/-- A flag that starts cleared is set exactly when it was set since it was last cleared. -/
theorem read_flag (flag : Register m Bool) {s : State} (cleared : flag.read s = false)
    (inputs : List Input) : flag.read (m.after s inputs) = true ↔
      ∃ t ∈ sinceLast (fun t => flag.write t == some false) (m.history s inputs),
        flag.write t = some true := by
  induction inputs using List.reverseRecOn with
  | nil => simp [cleared]
  | append_singleton inputs i ih =>
    rw [m.after_concat, flag.step, m.history_concat, sinceLast_concat]
    rcases written : flag.write (m.moment (m.after s inputs) i) with _ | _ | _
    · simp [written, ih]
    · simp
    · simp [written]

end Register
end BleRemote.Reactive

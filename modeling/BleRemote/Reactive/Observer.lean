import BleRemote.Reactive.Machine

/-! Observers: what a history has shown so far, folded into a value that the
machine itself does not keep. -/

set_option autoImplicit false
namespace BleRemote.Reactive

structure Observer (A S : Type) where
  start : S
  observe : S → A → S

namespace Observer

variable {A S : Type} (o : Observer A S)

/-- What has been observed of a history, oldest entry first. -/
def seen (h : List A) : S := h.foldl o.observe o.start

@[simp] theorem seen_nil : o.seen [] = o.start := rfl

theorem seen_concat (h : List A) (a : A) : o.seen (h ++ [a]) = o.observe (o.seen h) a := by
  rw [seen, List.foldl_append]
  rfl

end Observer
end BleRemote.Reactive

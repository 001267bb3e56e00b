import OwnedText.Command.Execution

/-! # Output without a limit

An output with room for everything takes what a command writes piece by piece, and every event of the
command is recorded. So what such a run shows is the execution itself.
-/

namespace OwnedText

namespace Effect

/-- The text that an effect writes. -/
def text : Effect → List Char
  | .write text => text
  | .record _ => []

/-- The event that an effect records. -/
def event? : Effect → Option Event
  | .write _ => none
  | .record event => some event

end Effect

private theorem Delivery.ofEffects_none (effects : List Effect) :
    ofEffects none effects = ⟨effects.flatMap Effect.text, effects.filterMap Effect.event?, true⟩ := by
  induction effects with
  | nil => rfl
  | cons effect rest ih =>
    cases effect with
    | write text => rw [ofEffects, ih]; rfl
    | record event => rw [ofEffects, ih]; rfl

/-- With room for everything, all effects reach the outside and the failure is that of the execution. -/
theorem Command.execute_none (heap : Heap) (command : Command) :
    command.execute heap none =
      ⟨(Execution.ofCommand heap command).effects.flatMap Effect.text,
        (Execution.ofCommand heap command).effects.filterMap Effect.event?,
        (Execution.ofCommand heap command).failure, (Execution.ofCommand heap command).heap⟩ := by
  simp only [execute, Delivery.ofEffects_none, if_true]

end OwnedText

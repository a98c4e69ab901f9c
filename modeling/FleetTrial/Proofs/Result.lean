/-!
# Results

A computation that may fail is built from others by going on with what they give. It is a success
exactly if all of its parts are.
-/

namespace FleetTrial

variable {ε ε' α β : Type} {x : Except ε α} {b : β}

/-- A computation whose result is mapped is a success only if it was one before. -/
theorem ok_of_map_eq_ok {f : α → β} (hmap : x.map f = .ok b) : ∃ a, x = .ok a ∧ f a = b := by
  cases x with
  | error e => cases hmap
  | ok a => exact ⟨a, rfl, Except.ok.inj hmap⟩

/-- A computation whose fault is mapped is a success only if it was one before. -/
theorem ok_of_mapError_eq_ok {f : ε → ε'} {a : α} (hmap : x.mapError f = .ok a) : x = .ok a := by
  cases x with
  | error e => cases hmap
  | ok a' => exact congrArg _ (Except.ok.inj hmap)

/-- A computation that goes on with another one is a success only if both are. -/
theorem ok_of_bind_eq_ok {f : α → Except ε β} (hbind : (x >>= f) = .ok b) :
    ∃ a, x = .ok a ∧ f a = .ok b := by
  cases x with
  | error e => cases hbind
  | ok a => exact ⟨a, rfl, hbind⟩

/-- A function of a result gives one too. -/
theorem exists_ok_map (hx : ∃ a, x = .ok a) (f : α → β) : ∃ b, x.map f = .ok b := by
  obtain ⟨a, rfl⟩ := hx
  exact ⟨f a, rfl⟩

end FleetTrial

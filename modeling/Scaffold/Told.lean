import Scaffold.Error
import Scaffold.Event

/-!
# Telling events on the way to a result

A computation that tells what it does gives its events in order and a result or the error that ended it.
What was told before an error remains told.
-/

namespace Scaffold

/-- Events in order, and a result or an error. -/
structure Told (α : Type) where
  events : List Event
  result : Except Error α

namespace Told

variable {α β : Type}

/-- Tells one event. -/
def tell (event : Event) : Told Unit := ⟨[event], .ok ()⟩

/-- A result that is told nothing of. -/
def ofExcept (result : Except Error α) : Told α := ⟨[], result⟩

/-- Goes on with the result, if there is one. -/
def andThen (told : Told α) (next : α → Told β) : Told β :=
  match told.result with
  | .error error => ⟨told.events, .error error⟩
  | .ok value => ⟨told.events ++ (next value).events, (next value).result⟩

instance : Monad Told where
  pure value := ⟨[], .ok value⟩
  bind := andThen

end Told

end Scaffold
